import PowerMeterDisplay.HidDevice
import PowerMeterDisplay.UsbValid

/-!
# The answers to requests

The requests as `udc_process_setup` decodes them are those of the tables of `HidDevice`: `device` is
the device that a state of the stack stands for, up to the stage of a request, and each function of
the stack does there what the tables say.
-/

namespace PowerMeterDisplay

/-- Whether an object is sent as a reply. -/
def UsbObject.isReply : UsbObject → Bool
  | .null | .ctrlBuffer | .outCache _ | .reportIn | .reportOut | .reportFeature => false
  | .rate | .protocol | .deviceStatus | .epStatus | .numConfiguration | .ifaceSetting => true
  | .languageid | .string | .deviceDesc | .confDesc | .reportDesc => true

namespace Usb

/-- The address once the request under way has ended. -/
def comingAddress (s : Usb) : UInt8 :=
  if s.ctrlreq.callback = some .validAddress then (s.ctrlreq.req.wValue &&& 0x7F).toUInt8
  else s.address

/-- The device that a state stands for, with the address that the request under way leaves.  Its
stage is given: how the control endpoint stands to it is said apart. -/
def device (s : Usb) (stage : Stage) : HidDevice where
  address := s.comingAddress
  configuration := s.udcNumConfiguration
  on := s.mainBGenericEnable
  halted j := (s.epCtrl (ctrlOf j)).stall
  rate := s.rate
  protocol := s.protocol
  stage := stage
  report := if (s.epCtrl 3).ready then some s.reportIn else none

/-- The invariant of what the requests are about. -/
def Served (s : Usb) : Prop :=
  s.Settled ∧ s.udcDeviceStatus = 0 ∧ s.stringType = usbDtString

variable {s s' s₁ s₂ : Usb} {stage : Stage}

/-- An endpoint in the table of the hardware, but not in that of the jobs. -/
theorem eq_control_of_job {ep : UInt8} {i : Fin 6} (hi : uddEpGetCtrl ep = some i)
    (hj : uddEpGetJob ep = none) : i = 0 ∨ i = 1 := by
  rw [uddEpGetCtrl] at hi
  rw [uddEpGetJob] at hj
  split at hi
  next hlt =>
    obtain rfl := Option.some.inj hi
    split at hj
    next => cases hj
    next hlow =>
      simp only [Fin.ext_iff, Fin.val_zero, Fin.val_one]
      omega
  next => cases hi

/-! ## Replies -/

/-- Two states that differ only in what a request for data sets. -/
def Asked (s s' : Usb) : Prop :=
  s' = { s with
    ctrlreq := { s.ctrlreq with
      payload := s'.ctrlreq.payload, payloadSize := s'.ctrlreq.payloadSize }
    udcPtrIface := s'.udcPtrIface
    udcStringDesc := s'.udcStringDesc
    udcEpStatus := s'.udcEpStatus
    udcIfaceSetting := s'.udcIfaceSetting } ∧
  s'.stringType = s.stringType

theorem Asked.refl (s : Usb) : s.Asked s := ⟨rfl, rfl⟩

theorem Asked.trans (h₁ : s.Asked s₁) (h₂ : s₁.Asked s₂) : s.Asked s₂ := by
  refine ⟨h₂.1.trans ?_, h₂.2.trans h₁.2⟩
  rw [h₁.1]

theorem Asked.device_eq (h : s.Asked s') : s'.device stage = s.device stage := by
  rw [h.1]
  rfl

theorem Asked.served (h : s.Asked s') (hs : s.Served) : s'.Served := by
  obtain ⟨hset, hstatus, hstring⟩ := hs
  refine ⟨?_, ?_, h.2.trans hstring⟩
  · rw [h.1]
    exact hset
  · rw [h.1]
    exact hstatus

/-- The reply that `udd_g_ctrlreq` leads to. -/
structure Carries (s : Usb) (bytes : List UInt8) : Prop where
  isReply : s.ctrlreq.payload.object.isReply = true
  bound : s.ctrlreq.payload.offset + s.ctrlreq.payloadSize.toNat ≤ s.ctrlreq.payload.object.size
  bytes_eq : ((s.contents s.ctrlreq.payload.object).drop s.ctrlreq.payload.offset).take
    s.ctrlreq.payloadSize.toNat = bytes

theorem Carries.length_eq {bytes : List UInt8} (h : s.Carries bytes) :
    bytes.length = s.ctrlreq.payloadSize.toNat := by
  rw [← h.bytes_eq, List.length_take, List.length_drop, length_contents]
  have := h.bound
  omega

/-- A decoder gives a reply, or refuses a request that has none. -/
def Replies (s : Usb) (reply : Option (List UInt8)) (result : Option (Usb × Bool)) : Prop :=
  ∃ s', result = some (s', reply.isSome) ∧ s.Asked s' ∧ ∀ bytes ∈ reply, s'.Carries bytes

theorem replies_none (h : s.Asked s') : s.Replies none (some (s', false)) :=
  ⟨s', rfl, h, nofun⟩

@[simp] theorem contents_uddSetSetupPayload (p : UsbPointer) (n : UInt16) (s : Usb)
    (o : UsbObject) : (uddSetSetupPayload p n s).contents o = s.contents o := by
  cases o <;> rfl

/-- A reply that lies in an object. -/
theorem replies_payload {p : UsbPointer} {n : UInt16} {bytes : List UInt8}
    (h : s.Asked s') (hobject : p.object.isReply = true)
    (hbound : p.offset + n.toNat ≤ p.object.size)
    (hbytes : ((s'.contents p.object).drop p.offset).take n.toNat = bytes) :
    s.Replies (some bytes) (some (uddSetSetupPayload p n s', true)) := by
  refine ⟨_, rfl, h.trans ⟨rfl, rfl⟩, fun bytes' hmem => ?_⟩
  obtain rfl := Option.some.inj hmem
  refine ⟨hobject, hbound, ?_⟩
  rw [contents_uddSetSetupPayload]
  exact hbytes

/-! ### Standard requests -/

theorem udcReqStdDevGetStatus_replies (hstatus : s.udcDeviceStatus = 0) :
    s.Replies ((if s.ctrlreq.req.wLength = 2 then some (le16 0) else none).map
      (List.take s.ctrlreq.req.wLength.toNat)) (some (udcReqStdDevGetStatus s)) := by
  by_cases hw : s.ctrlreq.req.wLength = 2
  · rw [udcReqStdDevGetStatus, if_neg (not_not.2 hw), if_pos hw, hw]
    refine replies_payload (.refl s) rfl (by decide) ?_
    rw [contents, hstatus]
    rfl
  · rw [udcReqStdDevGetStatus, if_pos hw, if_neg hw]
    exact replies_none (.refl s)

theorem udcReqStdDevGetConfiguration_replies :
    s.Replies ((if s.ctrlreq.req.wLength = 1 then some [s.udcNumConfiguration] else none).map
      (List.take s.ctrlreq.req.wLength.toNat)) (some (udcReqStdDevGetConfiguration s)) := by
  by_cases hw : s.ctrlreq.req.wLength = 1
  · rw [udcReqStdDevGetConfiguration, if_neg (not_not.2 hw), if_pos hw, hw]
    exact replies_payload (.refl s) rfl (by decide) rfl
  · rw [udcReqStdDevGetConfiguration, if_pos hw, if_neg hw]
    exact replies_none (.refl s)

/-- The endpoint of a request, if the tables have it. -/
theorem udcReqStdEpGetStatus_replies
    (hep : s.ctrlreq.req.wLength = 2 → (s.ctrlreq.req.wIndex.toUInt8 &&& 0x0F).toNat ≤ 2)
    (hstall : (s.epCtrl 0).stall = false ∧ (s.epCtrl 1).stall = false) :
    s.Replies ((if s.ctrlreq.req.wLength = 2 then
        some (le16
          (if (HidDevice.endpoint s.ctrlreq.req).any (s.device stage).halted then 1 else 0))
      else none).map (List.take s.ctrlreq.req.wLength.toNat)) (udcReqStdEpGetStatus s) := by
  by_cases hw : s.ctrlreq.req.wLength = 2
  · obtain ⟨i, hi⟩ := Option.isSome_iff_exists.1 (uddEpGetCtrl_isSome.2 (hep hw))
    have hhalted : (HidDevice.endpoint s.ctrlreq.req).any (s.device stage).halted =
        (s.epCtrl i).stall := by
      rw [HidDevice.endpoint]
      cases hj : uddEpGetJob s.ctrlreq.req.wIndex.toUInt8 with
      | some j =>
        rw [uddEpGetCtrl_of_job hj] at hi
        obtain rfl := Option.some.inj hi
        rfl
      | none =>
        obtain rfl | rfl := eq_control_of_job hi hj
        · exact hstall.1.symm
        · exact hstall.2.symm
    rw [udcReqStdEpGetStatus, if_neg (not_not.2 hw), if_pos hw, hw, uddEpIsHalted, hi, hhalted]
    have hasked : s.Asked { s with udcEpStatus := if (s.epCtrl i).stall then 1 else 0 } :=
      ⟨rfl, rfl⟩
    exact replies_payload hasked rfl (by decide) rfl
  · rw [udcReqStdEpGetStatus, if_pos hw, if_neg hw]
    exact replies_none (.refl s)

theorem udcReqStdIfaceGetSetting_replies (hs : s.Settled) :
    s.Replies ((if s.ctrlreq.req.wLength = 1 ∧ s.udcNumConfiguration ≠ 0 ∧
        s.ctrlreq.req.wIndex.toUInt8 = 0 then some [0] else none).map
      (List.take s.ctrlreq.req.wLength.toNat)) (udcReqStdIfaceGetSetting s) := by
  by_cases hw : s.ctrlreq.req.wLength = 1
  swap
  · rw [udcReqStdIfaceGetSetting, if_pos hw, if_neg fun h => hw h.1]
    exact replies_none (.refl s)
  by_cases hnum : s.udcNumConfiguration = 0
  · rw [udcReqStdIfaceGetSetting, if_neg (not_not.2 hw), if_pos hnum, if_neg fun h => h.2.1 hnum]
    exact replies_none (.refl s)
  have hcount : udcDesc[4]? = some 1 := rfl
  rw [udcReqStdIfaceGetSetting, if_neg (not_not.2 hw), if_neg hnum]
  simp only [hs.conf hnum, hcount, Option.bind_eq_bind, Option.bind_some, one_le_iff]
  by_cases hiface : s.ctrlreq.req.wIndex.toUInt8 = 0
  · rw [if_neg (not_not.2 hiface), if_pos ⟨hw, hnum, hiface⟩, hiface, hw,
      udcFind hnum (hs.conf hnum)]
    have hasked : s.Asked { s.setIface 9 with udcIfaceSetting := 0 } := ⟨rfl, rfl⟩
    exact replies_payload hasked rfl (by decide) rfl
  · rw [if_pos hiface, if_neg fun h => hiface h.2.2]
    exact replies_none (.refl s)

/-- A decoder whose reply is cut to what the host asks for. -/
theorem replies_truncate {reply : Option (List UInt8)} {result : Option (Usb × Bool)} (w : UInt16)
    (h : s.Replies reply result) :
    s.Replies (reply.map (List.take w.toNat)) (result.bind fun p =>
      if p.2 = false then some (p.1, false)
      else if w < p.1.ctrlreq.payloadSize then
        some (uddSetSetupPayload p.1.ctrlreq.payload w p.1, true)
      else some (p.1, true)) := by
  obtain ⟨s', rfl, hasked, hcarries⟩ := h
  rw [Option.bind_some]
  cases reply with
  | none => exact replies_none hasked
  | some bytes =>
    obtain ⟨hreply, hbound, hbytes⟩ := hcarries bytes rfl
    have hlen := (hcarries bytes rfl).length_eq
    rw [if_neg (by simp)]
    by_cases hlt : w < s'.ctrlreq.payloadSize
    · have hlt' := UInt16.lt_iff_toNat_lt.1 hlt
      rw [if_pos hlt]
      refine replies_payload (p := s'.ctrlreq.payload) hasked hreply (by omega) ?_
      rw [← hbytes, List.take_take, Nat.min_eq_left (Nat.le_of_lt hlt')]
    · have hge := UInt16.le_iff_toNat_le.1 (UInt16.not_lt.1 hlt)
      rw [if_neg hlt]
      refine ⟨s', rfl, hasked, fun bytes' hmem => ?_⟩
      obtain rfl := Option.some.inj hmem
      rw [List.take_of_length_le (by omega)]
      exact hcarries bytes rfl

/-- A name becomes a string descriptor. -/
theorem udcSetString_eq {name : List UInt8} (hlen : 2 + 2 * name.length ≤ 50)
    (htype : s.stringType = usbDtString) :
    ∃ desc : Vector UInt8 50, desc[1] = usbDtString ∧
      desc.toList.take (2 + 2 * name.length) = HidDevice.stringDescriptor name ∧
      udcSetString name s = some (uddSetSetupPayload ⟨.string, 0⟩
        (2 + name.length.toUInt8 * 2).toUInt16 { s with udcStringDesc := desc }) := by
  have hbytes (l : List UInt8) : (l.flatMap fun c => le16 c.toUInt16).length = 2 * l.length := by
    induction l with
    | nil => rfl
    | cons c l ih =>
      rw [List.flatMap_cons, List.length_append, ih, List.length_cons, le16]
      simp only [List.length_cons, List.length_nil]
      omega
  have hfit := hbytes name
  obtain ⟨desc, hdesc, hget⟩ := overwrite_eq_some s.udcStringDesc
    (show 2 + (name.flatMap fun c => le16 c.toUInt16).length ≤ 50 by omega)
  have htype' : desc[1] = usbDtString := by
    rw [hget 1 (by omega)]
    exact htype
  refine ⟨desc.set 0 (2 + name.length.toUInt8 * 2), ?_, ?_, ?_⟩
  · rw [Vector.getElem_set_ne _ _ (by decide)]
    exact htype'
  · refine List.ext_getElem ?_ fun i h₁ h₂ => ?_
    · simp only [HidDevice.stringDescriptor, List.length_take, Vector.length_toList,
        List.length_append, hfit, List.length_cons, List.length_nil]
      omega
    · rw [HidDevice.stringDescriptor, List.length_append, hfit] at h₂
      simp only [List.length_cons, List.length_nil] at h₂
      match i with
      | 0 => simp [HidDevice.stringDescriptor]
      | 1 => simpa [HidDevice.stringDescriptor] using htype'
      | i + 2 =>
        have hi : i < (name.flatMap fun c => le16 c.toUInt16).length := by omega
        simp [HidDevice.stringDescriptor, hget (i + 2) (by omega), List.getD_eq_getElem?_getD,
          List.getElem?_eq_getElem hi]
  · rw [udcSetString, hdesc]
    rfl

/-- A string descriptor is the reply as a whole. -/
theorem udcSetString_replies {name : List UInt8} (hlen : 2 + 2 * name.length ≤ 50)
    (htype : s.stringType = usbDtString) :
    s.Replies (some (HidDevice.stringDescriptor name))
      ((udcSetString name s).map fun s => (s, true)) := by
  obtain ⟨desc, hdesc, hbytes, heq⟩ := udcSetString_eq hlen htype
  have hsize : (2 + name.length.toUInt8 * 2).toUInt16.toNat = 2 + 2 * name.length := by
    simp
    omega
  rw [heq, Option.map_some]
  refine replies_payload ⟨rfl, hdesc.trans htype.symm⟩ rfl ?_ ?_
  · rw [hsize, Nat.zero_add]
    exact hlen
  · rw [hsize]
    exact hbytes

theorem udcReqStdDevGetStrDesc_replies (htype : s.stringType = usbDtString) :
    s.Replies (HidDevice.descriptor usbDtString s.ctrlreq.req.wValue.toUInt8)
      (udcReqStdDevGetStrDesc s) := by
  rw [udcReqStdDevGetStrDesc]
  by_cases h0 : s.ctrlreq.req.wValue.toUInt8 = 0
  · rw [h0]
    exact replies_payload (.refl s) rfl (by decide) rfl
  by_cases h1 : s.ctrlreq.req.wValue.toUInt8 = 1
  · rw [h1]
    exact udcSetString_replies (by decide) htype
  by_cases h2 : s.ctrlreq.req.wValue.toUInt8 = 2
  · rw [h2]
    exact udcSetString_replies (by decide) htype
  rw [HidDevice.descriptor, if_neg (by decide), if_neg fun h => absurd h.1 (by decide),
    if_neg fun h => h0 h.2, if_neg fun h => h1 h.2, if_neg fun h => h2 h.2]
  split
  · exact absurd (UInt8.toNat_inj.1 ‹_›) h0
  · exact absurd (UInt8.toNat_inj.1 ‹_›) h1
  · exact absurd (UInt8.toNat_inj.1 ‹_›) h2
  · exact replies_none (.refl s)

theorem udcReqStdDevGetDescriptor_replies (htype : s.stringType = usbDtString) :
    s.Replies ((HidDevice.descriptor (s.ctrlreq.req.wValue >>> 8).toUInt8
        s.ctrlreq.req.wValue.toUInt8).map (List.take s.ctrlreq.req.wLength.toNat))
      (udcReqStdDevGetDescriptor s) := by
  have hcount : udcDeviceDesc[17]? = some 1 := rfl
  have hdevice : udcDeviceDesc[0]? = some 18 := rfl
  rw [udcReqStdDevGetDescriptor]
  by_cases h1 : (s.ctrlreq.req.wValue >>> 8).toUInt8 = usbDtDevice
  · rw [if_pos h1, HidDevice.descriptor, if_pos h1]
    exact replies_truncate _ (replies_payload (.refl s) rfl (by decide) rfl)
  by_cases h2 : (s.ctrlreq.req.wValue >>> 8).toUInt8 = usbDtConfiguration
  · rw [if_neg h1, if_pos h2, h2, hcount]
    simp only [Option.bind_eq_bind, Option.bind_some, one_le_iff]
    by_cases hindex : s.ctrlreq.req.wValue.toUInt8 = 0
    · rw [if_neg (not_not.2 hindex), hindex, udcGetEofConf_udcDesc]
      exact replies_truncate _ (replies_payload (.refl s) rfl (by decide) rfl)
    · rw [if_pos hindex, HidDevice.descriptor, if_neg (by decide), if_neg fun h => hindex h.2]
      exact replies_truncate _ (replies_none (.refl s))
  rw [if_neg h1, if_neg h2]
  by_cases h3 : (s.ctrlreq.req.wValue >>> 8).toUInt8 = usbDtString
  · rw [if_pos h3, h3]
    exact replies_truncate _ (udcReqStdDevGetStrDesc_replies htype)
  · rw [if_neg h3, HidDevice.descriptor, if_neg h1, if_neg fun h => h2 h.1, if_neg fun h => h3 h.1,
      if_neg fun h => h3 h.1, if_neg fun h => h3 h.1]
    exact replies_truncate _ (replies_none (.refl s))

/-- The standard requests for data. -/
theorem udcReqstd_replies (hs : s.Served) (hin : s.ctrlreq.req.isIn = true)
    (hw : s.ctrlreq.req.wLength ≠ 0) (htype : s.ctrlreq.req.type = usbReqTypeStandard)
    (hmiss : s.ctrlreq.req.missesTables = false)
    (hstall : (s.epCtrl 0).stall = false ∧ (s.epCtrl 1).stall = false) :
    s.Replies (((s.device stage).standardReply s.ctrlreq.req).map
      (List.take s.ctrlreq.req.wLength.toNat)) (udcReqstd s) := by
  obtain ⟨hset, hstatus, hstring⟩ := hs
  rw [udcReqstd, if_pos hin, if_neg hw, HidDevice.standardReply]
  by_cases hdev : s.ctrlreq.req.recipient = usbReqRecipDevice
  · rw [if_pos hdev, if_pos hdev]
    by_cases h₁ : s.ctrlreq.req.bRequest = usbReqGetStatus
    · rw [if_pos h₁, if_pos h₁]
      exact udcReqStdDevGetStatus_replies hstatus
    rw [if_neg h₁, if_neg h₁]
    by_cases h₂ : s.ctrlreq.req.bRequest = usbReqGetDescriptor
    · rw [if_pos h₂, if_pos h₂]
      exact udcReqStdDevGetDescriptor_replies hstring
    rw [if_neg h₂, if_neg h₂]
    by_cases h₃ : s.ctrlreq.req.bRequest = usbReqGetConfiguration
    · rw [if_pos h₃, if_pos h₃]
      exact udcReqStdDevGetConfiguration_replies
    rw [if_neg h₃, if_neg h₃]
    exact replies_none (.refl s)
  rw [if_neg hdev, if_neg hdev]
  by_cases hiface : s.ctrlreq.req.recipient = usbReqRecipInterface
  · rw [if_pos hiface, if_pos hiface]
    by_cases h₁ : s.ctrlreq.req.bRequest = usbReqGetInterface
    · simp only [h₁, true_and]
      exact udcReqStdIfaceGetSetting_replies hset
    · rw [if_neg h₁, if_neg fun h => h₁ h.1]
      exact replies_none (.refl s)
  rw [if_neg hiface, if_neg hiface]
  by_cases hep : s.ctrlreq.req.recipient = usbReqRecipEndpoint
  · rw [if_pos hep, if_pos hep]
    by_cases h₁ : s.ctrlreq.req.bRequest = usbReqGetStatus
    · simp only [h₁, true_and]
      refine udcReqStdEpGetStatus_replies (fun hw => ?_) hstall
      simpa [UsbSetupReq.missesTables, htype, hep, hin, h₁, hw] using hmiss
    · rw [if_neg h₁, if_neg fun h => h₁ h.1]
      exact replies_none (.refl s)
  · rw [if_neg hep, if_neg hep]
    exact replies_none (.refl s)

/-! ### Requests to the interface -/

theorem toNat_min (a b : UInt16) : (min a b).toNat = min a.toNat b.toNat := by
  show (if a ≤ b then a else b).toNat = _
  have hle : a ≤ b ↔ a.toNat ≤ b.toNat := UInt16.le_iff_toNat_le
  by_cases h : a ≤ b
  · rw [if_pos h, Nat.min_eq_left (hle.1 h)]
  · rw [if_neg h, Nat.min_eq_right (Nat.le_of_not_le fun hn => h (hle.2 hn))]

theorem udiHidReqstdifacegetDescriptor_replies (hconf : s.udcPtrConf = some udcDesc)
    (hiface : s.udcPtrIface = 9) :
    s.Replies ((HidDevice.hidDescriptor (s.ctrlreq.req.wValue >>> 8).toUInt8).map
      (List.take s.ctrlreq.req.wLength.toNat)) (udiHidReqstdifacegetDescriptor s) := by
  have hhid : udcDesc[19]? = some usbDtHid := rfl
  have hlen : udcDesc[18]? = some 9 := rfl
  have hreport : udcDesc[24]? = some usbDtHidReport := rfl
  have hlo : udcDesc[25]? = some 53 := rfl
  have hhi : udcDesc[26]? = some 0 := rfl
  simp only [udiHidReqstdifacegetDescriptor, hconf, hiface, hhid, hlen, hreport, hlo, hhi,
    Option.bind_eq_bind, Option.bind_some, ne_eq, not_true_eq_false, if_false]
  by_cases h₁ : (s.ctrlreq.req.wValue >>> 8).toUInt8 = usbDtHid
  · rw [if_pos h₁, HidDevice.hidDescriptor, if_pos h₁]
    have hbytes : udiHidDesc.bytes = ((s.contents .confDesc).drop 18).take 9 := rfl
    refine replies_payload (.refl s) rfl ?_ ?_
    · rw [toNat_min]
      show 18 + min _ 9 ≤ 41
      omega
    · rw [toNat_min, hbytes, List.take_take]
      rfl
  rw [if_neg h₁, HidDevice.hidDescriptor, if_neg h₁]
  by_cases h₂ : (s.ctrlreq.req.wValue >>> 8).toUInt8 = usbDtHidReport
  · rw [if_pos h₂.symm, if_pos h₂]
    have hbytes : udiHidGenericReportDesc = ((s.contents .reportDesc).drop 0).take 53 := rfl
    refine replies_payload (.refl s) rfl ?_ ?_
    · rw [toNat_min]
      show 0 + min _ 53 ≤ 53
      omega
    · rw [toNat_min, hbytes, List.take_take]
      rfl
  · rw [if_neg (Ne.symm h₂), if_neg h₂]
    exact replies_none (.refl s)

theorem udiHidSetup_replies (hconf : s.udcPtrConf = some udcDesc) (hiface : s.udcPtrIface = 9)
    (hin : s.ctrlreq.req.isIn = true) (hw : s.ctrlreq.req.wLength ≠ 0) :
    s.Replies (((s.device stage).hidReply s.ctrlreq.req).map
      (List.take s.ctrlreq.req.wLength.toNat)) (udiHidSetup s) := by
  have hone (b : UInt8) : List.take s.ctrlreq.req.wLength.toNat [b] = [b] := by
    refine List.take_of_length_le (Nat.one_le_iff_ne_zero.2 fun h => hw ?_)
    exact UInt16.toNat_inj.1 h
  rw [udiHidSetup, if_pos hin, HidDevice.hidReply]
  by_cases h₁ :
      s.ctrlreq.req.type = usbReqTypeStandard ∧ s.ctrlreq.req.bRequest = usbReqGetDescriptor
  · rw [if_pos h₁, if_pos h₁]
    exact udiHidReqstdifacegetDescriptor_replies hconf hiface
  rw [if_neg h₁, if_neg h₁]
  by_cases h₂ : s.ctrlreq.req.type = usbReqTypeClass ∧ s.ctrlreq.req.bRequest = usbReqHidGetIdle
  · rw [if_pos h₂, if_pos h₂, Option.map_some, hone]
    exact replies_payload (.refl s) rfl (by decide) rfl
  rw [if_neg h₂, if_neg h₂]
  by_cases h₃ : s.ctrlreq.req.type = usbReqTypeClass ∧ s.ctrlreq.req.bRequest = usbReqHidGetProtocol
  · rw [if_pos h₃, if_pos h₃, Option.map_some, hone]
    exact replies_payload (.refl s) rfl (by decide) rfl
  rw [if_neg h₃, if_neg h₃]
  exact replies_none (.refl s)

theorem Asked.replies {reply : Option (List UInt8)} {result : Option (Usb × Bool)}
    (h : s.Asked s₁) (hr : s₁.Replies reply result) : s.Replies reply result := by
  obtain ⟨s', heq, hasked, hcarries⟩ := hr
  exact ⟨s', heq, h.trans hasked, hcarries⟩

theorem asked_setIface (s : Usb) (pos : ℕ) : s.Asked (s.setIface pos) := ⟨rfl, rfl⟩

theorem udcReqIface_replies (hs : s.Settled) (hin : s.ctrlreq.req.isIn = true)
    (hw : s.ctrlreq.req.wLength ≠ 0) :
    s.Replies ((if s.udcNumConfiguration ≠ 0 ∧ s.ctrlreq.req.wIndex.toUInt8 = 0 then
        (s.device stage).hidReply s.ctrlreq.req else none).map
      (List.take s.ctrlreq.req.wLength.toNat)) (udcReqIface s) := by
  by_cases hnum : s.udcNumConfiguration = 0
  · rw [udcReqIface, if_pos hnum, if_neg fun h => h.1 hnum]
    exact replies_none (.refl s)
  have hcount : udcDesc[4]? = some 1 := rfl
  rw [udcReqIface, if_neg hnum]
  simp only [hs.conf hnum, hcount, Option.bind_eq_bind, Option.bind_some, one_le_iff]
  by_cases hiface : s.ctrlreq.req.wIndex.toUInt8 = 0
  · rw [if_neg (not_not.2 hiface), if_pos ⟨hnum, hiface⟩, hiface, udcFind hnum (hs.conf hnum)]
    simp only [Option.bind_some, Bool.true_eq_false, if_false,
      udcFind (s := s.setIface 9) hnum (hs.conf hnum)]
    exact (asked_setIface s 9).replies (udiHidSetup_replies (hs.conf hnum) rfl hin hw)
  · rw [if_pos hiface, if_neg fun h => hiface h.2]
    exact replies_none (.refl s)

theorem udcReqEp_replies (hs : s.Settled) (hin : s.ctrlreq.req.isIn = true)
    (hw : s.ctrlreq.req.wLength ≠ 0) :
    s.Replies ((if s.udcNumConfiguration ≠ 0 then
        (s.device stage).hidReply s.ctrlreq.req else none).map
      (List.take s.ctrlreq.req.wLength.toNat)) (udcReqEp s) := by
  by_cases hnum : s.udcNumConfiguration = 0
  · rw [udcReqEp, if_pos hnum, if_neg (not_not.2 hnum)]
    exact replies_none (.refl s)
  have hask : s.Replies (((s.device stage).hidReply s.ctrlreq.req).map
      (List.take s.ctrlreq.req.wLength.toNat)) (udiHidSetup (s.setIface 9)) :=
    (asked_setIface s 9).replies (udiHidSetup_replies (hs.conf hnum) rfl hin hw)
  obtain ⟨s', heq, hasked, hcarries⟩ := hask
  rw [udcReqEp, if_neg hnum, if_pos hnum, udcIfaces_eq (hs.conf hnum)]
  have hzero : (0 : ℕ).toUInt8 = 0 := rfl
  simp only [Option.bind_eq_bind, Option.bind_some, udcAskIfaces, hzero,
    udcFind hnum (hs.conf hnum), Bool.true_eq_false, if_false, heq]
  refine ⟨s', ?_, hasked, hcarries⟩
  split
  next h => rw [h]; rfl
  next h => rw [Bool.eq_false_iff.2 h]

/-- The next decoder has the request if the one before has not. -/
theorem Replies.orElse {reply reply' : Option (List UInt8)} {result : Option (Usb × Bool)}
    {applies : Bool} {f : Usb → Option (Usb × Bool)} (h : s.Replies reply result)
    (hf : applies = true → ∀ s', s.Asked s' → s'.Replies reply' (f s')) :
    s.Replies (reply.or (if applies then reply' else none))
      (result.bind (Usb.orElse applies f)) := by
  obtain ⟨s', rfl, hasked, hcarries⟩ := h
  rw [Option.bind_some, Usb.orElse]
  cases reply with
  | some bytes =>
    rw [Option.some_or, if_neg fun h => nomatch h.2]
    exact ⟨s', rfl, hasked, hcarries⟩
  | none =>
    rw [Option.none_or]
    cases applies with
    | true => exact hasked.replies (hf rfl s' hasked)
    | false => exact replies_none hasked

theorem toInterface_split {α : Type*} (d : HidDevice) (r : UsbSetupReq) (x : Option α) :
    (if r.recipient = usbReqRecipInterface then
        if d.configuration ≠ 0 ∧ r.wIndex.toUInt8 = 0 then x else none else none).or
      (if r.recipient = usbReqRecipEndpoint then
        if d.configuration ≠ 0 then x else none else none) =
      if d.toInterface r then x else none := by
  have hne : usbReqRecipInterface ≠ usbReqRecipEndpoint := by decide
  rw [HidDevice.toInterface]
  by_cases hiface : r.recipient = usbReqRecipInterface
  · by_cases hindex : r.wIndex.toUInt8 = 0 <;> simp [hiface, hindex, hne]
  · by_cases hep : r.recipient = usbReqRecipEndpoint <;> simp [hep, hne.symm, hiface]

/-- What the host gets for a request for data is what the tables say. -/
theorem udcProcessSetup_replies (hs : s.Served) (hin : s.ctrlreq.req.isIn = true)
    (hmiss : s.ctrlreq.req.missesTables = false)
    (hstall : (s.epCtrl 0).stall = false ∧ (s.epCtrl 1).stall = false)
    (hcallback : s.ctrlreq.callback = none) (hsize : s.ctrlreq.payloadSize = 0) :
    s.Replies ((s.device stage).reply s.ctrlreq.req) (udcProcessSetup s) := by
  have hsame : { s with ctrlreq := { s.ctrlreq with payloadSize := 0, callback := none } } = s := by
    rw [← hcallback, ← hsize]
  rw [udcProcessSetup, hsame, HidDevice.reply]
  by_cases hw : s.ctrlreq.req.wLength = 0
  · rw [if_pos hw, if_pos ⟨hin, hw⟩]
    exact replies_none (.refl s)
  rw [if_neg hw, if_neg fun h : s.ctrlreq.req.isIn = true ∧ s.ctrlreq.req.wLength = 0 => hw h.2]
  have hkeep {s' : Usb} (h : s.Asked s') : s'.ctrlreq.req = s.ctrlreq.req ∧
      s'.device stage = s.device stage ∧ s'.udcNumConfiguration = s.udcNumConfiguration ∧
      s'.epCtrl = s.epCtrl := by
    refine ⟨?_, h.device_eq, ?_, ?_⟩ <;> rw [h.1]
  have hstandard (htype : decide (s.ctrlreq.req.type = usbReqTypeStandard) = true) (s' : Usb)
      (hasked : s.Asked s') : s'.Replies (((s.device stage).standardReply s.ctrlreq.req).map
        (List.take s.ctrlreq.req.wLength.toNat)) (udcReqstd s') := by
    obtain ⟨hreq, hdevice, -, hctrl⟩ := hkeep hasked
    have h := @udcReqstd_replies s' stage (hasked.served hs)
    rw [hreq, hctrl, hdevice] at h
    exact h hin hw (of_decide_eq_true htype) hmiss hstall
  have hiface (_ : decide (s.ctrlreq.req.recipient = usbReqRecipInterface) = true) (s' : Usb)
      (hasked : s.Asked s') :
      s'.Replies ((if s.udcNumConfiguration ≠ 0 ∧ s.ctrlreq.req.wIndex.toUInt8 = 0 then
        (s.device stage).hidReply s.ctrlreq.req else none).map
          (List.take s.ctrlreq.req.wLength.toNat)) (udcReqIface s') := by
    obtain ⟨hreq, hdevice, hnum, -⟩ := hkeep hasked
    have h := @udcReqIface_replies s' stage (hasked.served hs).1
    rw [hreq, hnum, hdevice] at h
    exact h hin hw
  have hep (_ : decide (s.ctrlreq.req.recipient = usbReqRecipEndpoint) = true) (s' : Usb)
      (hasked : s.Asked s') :
      s'.Replies ((if s.udcNumConfiguration ≠ 0 then
        (s.device stage).hidReply s.ctrlreq.req else none).map
          (List.take s.ctrlreq.req.wLength.toNat)) (udcReqEp s') := by
    obtain ⟨hreq, hdevice, hnum, -⟩ := hkeep hasked
    have h := @udcReqEp_replies s' stage (hasked.served hs).1
    rw [hreq, hnum, hdevice] at h
    exact h hin hw
  have hall := (((replies_none (.refl s)).orElse hstandard).orElse hiface).orElse hep
  refine Eq.mp (congrArg₂ s.Replies ?_ ?_) hall
  · rw [Option.none_or, Option.or_assoc, Option.map_or, ← toInterface_split, Option.map_or]
    simp only [apply_ite (Option.map (List.take s.ctrlreq.req.wLength.toNat)), Option.map_none,
      decide_eq_true_eq]
    rfl
  · rw [Option.bind_assoc]
    rfl

end Usb

end PowerMeterDisplay

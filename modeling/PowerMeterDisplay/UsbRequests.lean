import PowerMeterDisplay.UsbDevice

/-!
# The requests of the USB host

What `udc.c`, `udi_hid.c` and `udi_hid_generic.c` make of a SETUP packet.  The functions return
whether they support the request; the data to send or the buffer to fill is left in
`udd_g_ctrlreq`.
-/

namespace PowerMeterDisplay

namespace Usb

def uddSetSetupPayload (payload : UsbPointer) (payloadSize : UInt16) (s : Usb) : Usb :=
  { s with ctrlreq := { s.ctrlreq with payload := payload, payloadSize := payloadSize } }

/-! ## The interface -/

def udiHidGenericEnable (s : Usb) : Option (Usb × Bool) := do
  let s := { s with rate := 0, protocol := 0, bReportInFree := true }
  let (s, ok) ← udiHidGenericReportOutEnable (uddEpTransComplet transDepth) s
  if ok = false then return (s, false)
  return ({ s with mainBGenericEnable := true }, true)

def udiHidGenericDisable (s : Usb) : Usb := { s with mainBGenericEnable := false }

abbrev udiHidGenericGetsetting : UInt8 := 0

def udiHidGenericSetreport (s : Usb) : Usb × Bool :=
  let r := s.ctrlreq.req
  if r.wValue >>> 8 = usbHidReportTypeFeature ∧ r.wValue &&& 0xFF = 0 ∧
      r.wLength = udiHidReportFeatureSize then
    ({ s with ctrlreq := { s.ctrlreq with
        payload := ⟨.reportFeature, 0⟩, callback := some .setfeatureValid,
        payloadSize := udiHidReportFeatureSize } }, true)
  else (s, false)

/-- The HID descriptor lies behind the descriptor of the interface. -/
def udiHidReqstdifacegetDescriptor (s : Usb) : Option (Usb × Bool) := do
  let r := s.ctrlreq.req
  let conf ← s.udcPtrConf
  let pos := s.udcPtrIface + 9
  if (← conf[pos + 1]?) ≠ usbDtHid then return (s, false)
  if (r.wValue >>> 8).toUInt8 = usbDtHid then
    let len ← conf[pos]?
    return (uddSetSetupPayload ⟨.confDesc, pos⟩ (min r.wLength len.toUInt16) s, true)
  if (← conf[pos + 6]?) = (r.wValue >>> 8).toUInt8 then
    let len := ofLe16 (← conf[pos + 7]?) (← conf[pos + 8]?)
    return (uddSetSetupPayload ⟨.reportDesc, 0⟩ (min r.wLength len) s, true)
  return (s, false)

def udiHidSetup (s : Usb) : Option (Usb × Bool) :=
  let r := s.ctrlreq.req
  if r.isIn then
    if r.type = usbReqTypeStandard ∧ r.bRequest = usbReqGetDescriptor then
      udiHidReqstdifacegetDescriptor s
    else if r.type = usbReqTypeClass ∧ r.bRequest = usbReqHidGetIdle then
      some (uddSetSetupPayload ⟨.rate, 0⟩ 1 s, true)
    else if r.type = usbReqTypeClass ∧ r.bRequest = usbReqHidGetProtocol then
      some (uddSetSetupPayload ⟨.protocol, 0⟩ 1 s, true)
    else some (s, false)
  else if r.type = usbReqTypeClass then
    if r.bRequest = usbReqHidSetReport then some (udiHidGenericSetreport s)
    else if r.bRequest = usbReqHidSetIdle then
      some ({ s with rate := (r.wValue >>> 8).toUInt8 }, true)
    else if r.bRequest = usbReqHidSetProtocol then
      some (if r.wLength ≠ 0 then (s, false) else ({ s with protocol := r.wValue.toUInt8 }, true))
    else some (s, false)
  else some (s, false)

/-! ## The configuration -/

/-- A new place for `udc_ptr_iface`. -/
def setIface (s : Usb) (pos : ℕ) : Usb := { s with udcPtrIface := pos }

def udcUpdateIfaceDesc (iface setting : UInt8) (s : Usb) : Option (Usb × Bool) := do
  if s.udcNumConfiguration = 0 then return (s, false)
  let conf ← s.udcPtrConf
  if (← conf[4]?) ≤ iface then return (s, false)
  let (found, pos) ← udcFindIface conf iface setting
  return (s.setIface pos, found)

/-- A loop over the endpoint descriptors behind a place; it ends early when `f` fails. -/
def udcForEndpoints (f : ℕ → Usb → Option (Usb × Bool)) :
    ℕ → ℕ → Usb → Option (Usb × Bool)
  | 0, _, _ => none
  | fuel + 1, pos, s => do
    match ← udcNextDescInIface (← s.udcPtrConf) pos usbDtEndpoint with
    | none => return (s, true)
    | some pos =>
      let (s, ok) ← f pos s
      if ok = false then return (s, false)
      udcForEndpoints f fuel pos s

def udcIfaceDisable (iface : UInt8) (s : Usb) : Option (Usb × Bool) := do
  let (s, found) ← udcUpdateIfaceDesc iface 0 s
  if found = false then return (s, false)
  let (s, found) ← udcUpdateIfaceDesc iface udiHidGenericGetsetting s
  if found = false then return (s, false)
  let conf ← s.udcPtrConf
  let (s, _) ← udcForEndpoints (fun pos s => do return (← uddEpFree (← conf[pos + 2]?) s, true))
    (conf.length + 1) s.udcPtrIface s
  return (udiHidGenericDisable s, true)

def udcIfaceEnable (iface setting : UInt8) (s : Usb) : Option (Usb × Bool) := do
  let (s, found) ← udcUpdateIfaceDesc iface setting s
  if found = false then return (s, false)
  let conf ← s.udcPtrConf
  let (s, ok) ← udcForEndpoints (fun pos s => do
      uddEpAlloc (← conf[pos + 2]?) (← conf[pos + 3]?)
        (ofLe16 (← conf[pos + 4]?) (← conf[pos + 5]?)) s)
    (conf.length + 1) s.udcPtrIface s
  if ok = false then return (s, false)
  udiHidGenericEnable s

/-- The loop over the interfaces of a configuration, from one of them on. -/
def udcForIfaces (f : UInt8 → Usb → Option (Usb × Bool)) : List ℕ → Usb → Option (Usb × Bool)
  | [], s => some (s, true)
  | iface :: ifaces, s => do
    let (s, ok) ← f iface.toUInt8 s
    if ok = false then return (s, false)
    udcForIfaces f ifaces s

/-- The interfaces of a configuration. -/
def udcIfaces (s : Usb) : Option (List ℕ) := do
  return List.range (← (← s.udcPtrConf)[4]?).toNat

def udcReset (s : Usb) : Option Usb := do
  let s ←
    if s.udcNumConfiguration ≠ 0 then
      (udcForIfaces (fun iface s => (udcIfaceDisable iface s).map fun r => (r.1, true))
        (← udcIfaces s) s).map Prod.fst
    else pure s
  return { s with udcNumConfiguration := 0, udcDeviceStatus := 0 }

/-! ## Standard requests -/

def udcReqStdDevGetStatus (s : Usb) : Usb × Bool :=
  if s.ctrlreq.req.wLength ≠ 2 then (s, false)
  else (uddSetSetupPayload ⟨.deviceStatus, 0⟩ 2 s, true)

def udcReqStdEpGetStatus (s : Usb) : Option (Usb × Bool) := do
  if s.ctrlreq.req.wLength ≠ 2 then return (s, false)
  let halted ← uddEpIsHalted s.ctrlreq.req.wIndex.toUInt8 s
  return (uddSetSetupPayload ⟨.epStatus, 0⟩ 2 { s with udcEpStatus := if halted then 1 else 0 },
    true)

def udcReqStdDevClearFeature (s : Usb) : Usb × Bool :=
  if s.ctrlreq.req.wLength ≠ 0 then (s, false)
  else if s.ctrlreq.req.wValue = usbDevFeatureRemoteWakeup then
    ({ s with udcDeviceStatus := s.udcDeviceStatus &&& ~~~2 }, true)
  else (s, false)

def udcReqStdEpClearFeature (s : Usb) : Option (Usb × Bool) := do
  if s.ctrlreq.req.wLength ≠ 0 then return (s, false)
  if s.ctrlreq.req.wValue = usbEpFeatureHalt then
    return (← uddEpClearHalt s.ctrlreq.req.wIndex.toUInt8 s, true)
  return (s, false)

/-- No feature of the device can be set: it has no remote wakeup. -/
def udcReqStdDevSetFeature (s : Usb) : Usb × Bool := (s, false)

def udcReqStdEpSetFeature (s : Usb) : Option (Usb × Bool) := do
  if s.ctrlreq.req.wLength ≠ 0 then return (s, false)
  if s.ctrlreq.req.wValue = usbEpFeatureHalt then
    let s ← uddEpAbort s.ctrlreq.req.wIndex.toUInt8 s
    return (← uddEpSetHalt s.ctrlreq.req.wIndex.toUInt8 s, true)
  return (s, false)

/-- The address changes at the end of the request. -/
def udcReqStdDevSetAddress (s : Usb) : Usb × Bool :=
  if s.ctrlreq.req.wLength ≠ 0 then (s, false)
  else ({ s with ctrlreq := { s.ctrlreq with callback := some .validAddress } }, true)

/-- A string as a descriptor; what a longer one left behind it stays. -/
def udcSetString (str : List UInt8) (s : Usb) : Option Usb := do
  let desc ← overwrite s.udcStringDesc 2 (str.flatMap fun c => le16 c.toUInt16)
  let bLength := 2 + str.length.toUInt8 * 2
  return uddSetSetupPayload ⟨.string, 0⟩ bLength.toUInt16
    { s with udcStringDesc := desc.set 0 bLength }

def udcReqStdDevGetStrDesc (s : Usb) : Option (Usb × Bool) :=
  match s.ctrlreq.req.wValue.toUInt8.toNat with
  | 0 => some (uddSetSetupPayload ⟨.languageid, 0⟩ 4 s, true)
  | 1 => (udcSetString udcStringManufacturerName s).map fun s => (s, true)
  | 2 => (udcSetString udcStringProductName s).map fun s => (s, true)
  | _ => some (s, false)

/-- There is no BOS descriptor, and one configuration. -/
def udcReqStdDevGetDescriptor (s : Usb) : Option (Usb × Bool) := do
  let r := s.ctrlreq.req
  let type := (r.wValue >>> 8).toUInt8
  let (s, ok) ←
    if type = usbDtDevice then
      let len ← udcDeviceDesc[0]?
      pure (uddSetSetupPayload ⟨.deviceDesc, 0⟩ len.toUInt16 s, true)
    else if type = usbDtConfiguration then
      if (← udcDeviceDesc[17]?) ≤ r.wValue.toUInt8 then pure (s, false)
      else
        let len ← udcGetEofConf udcDesc
        pure (uddSetSetupPayload ⟨.confDesc, 0⟩ len.toUInt16 s, true)
    else if type = usbDtString then udcReqStdDevGetStrDesc s
    else pure (s, false)
  if ok = false then return (s, false)
  if r.wLength < s.ctrlreq.payloadSize then
    return (uddSetSetupPayload s.ctrlreq.payload r.wLength s, true)
  return (s, true)

def udcReqStdDevGetConfiguration (s : Usb) : Usb × Bool :=
  if s.ctrlreq.req.wLength ≠ 1 then (s, false)
  else (uddSetSetupPayload ⟨.numConfiguration, 0⟩ 1 s, true)

def udcReqStdDevSetConfiguration (s : Usb) : Option (Usb × Bool) := do
  let r := s.ctrlreq.req
  if r.wLength ≠ 0 then return (s, false)
  if s.address = 0 then return (s, false)
  if (← udcDeviceDesc[17]?) < r.wValue.toUInt8 then return (s, false)
  let s ← udcReset s
  let s := { s with udcNumConfiguration := r.wValue.toUInt8 }
  if s.udcNumConfiguration = 0 then return (s, true)
  let conf ← [udcDesc][s.udcNumConfiguration.toNat - 1]?
  let s := { s with udcPtrConf := some conf }
  udcForIfaces (fun iface => udcIfaceEnable iface 0) (← udcIfaces s) s

def udcReqStdIfaceGetSetting (s : Usb) : Option (Usb × Bool) := do
  let r := s.ctrlreq.req
  if r.wLength ≠ 1 then return (s, false)
  if s.udcNumConfiguration = 0 then return (s, false)
  if (← (← s.udcPtrConf)[4]?) ≤ r.wIndex.toUInt8 then return (s, false)
  let (s, found) ← udcUpdateIfaceDesc r.wIndex.toUInt8 0 s
  if found = false then return (s, false)
  return (uddSetSetupPayload ⟨.ifaceSetting, 0⟩ 1
    { s with udcIfaceSetting := udiHidGenericGetsetting }, true)

def udcReqStdIfaceSetSetting (s : Usb) : Option (Usb × Bool) := do
  let r := s.ctrlreq.req
  if r.wLength ≠ 0 then return (s, false)
  if s.udcNumConfiguration = 0 then return (s, false)
  let (s, ok) ← udcIfaceDisable r.wIndex.toUInt8 s
  if ok = false then return (s, false)
  udcIfaceEnable r.wIndex.toUInt8 r.wValue.toUInt8 s

def udcReqstd (s : Usb) : Option (Usb × Bool) :=
  let r := s.ctrlreq.req
  if r.isIn then
    if r.wLength = 0 then some (s, false)
    else if r.recipient = usbReqRecipDevice then
      if r.bRequest = usbReqGetStatus then some (udcReqStdDevGetStatus s)
      else if r.bRequest = usbReqGetDescriptor then udcReqStdDevGetDescriptor s
      else if r.bRequest = usbReqGetConfiguration then some (udcReqStdDevGetConfiguration s)
      else some (s, false)
    else if r.recipient = usbReqRecipInterface then
      if r.bRequest = usbReqGetInterface then udcReqStdIfaceGetSetting s else some (s, false)
    else if r.recipient = usbReqRecipEndpoint then
      if r.bRequest = usbReqGetStatus then udcReqStdEpGetStatus s else some (s, false)
    else some (s, false)
  else if r.recipient = usbReqRecipDevice then
    if r.bRequest = usbReqSetAddress then some (udcReqStdDevSetAddress s)
    else if r.bRequest = usbReqClearFeature then some (udcReqStdDevClearFeature s)
    else if r.bRequest = usbReqSetFeature then some (udcReqStdDevSetFeature s)
    else if r.bRequest = usbReqSetConfiguration then udcReqStdDevSetConfiguration s
    else some (s, false)
  else if r.recipient = usbReqRecipInterface then
    if r.bRequest = usbReqSetInterface then udcReqStdIfaceSetSetting s else some (s, false)
  else if r.recipient = usbReqRecipEndpoint then
    if r.bRequest = usbReqClearFeature then udcReqStdEpClearFeature s
    else if r.bRequest = usbReqSetFeature then udcReqStdEpSetFeature s
    else some (s, false)
  else some (s, false)

/-! ## All requests -/

def udcReqIface (s : Usb) : Option (Usb × Bool) := do
  let iface := s.ctrlreq.req.wIndex.toUInt8
  if s.udcNumConfiguration = 0 then return (s, false)
  if (← (← s.udcPtrConf)[4]?) ≤ iface then return (s, false)
  let (s, found) ← udcUpdateIfaceDesc iface 0 s
  if found = false then return (s, false)
  let (s, found) ← udcUpdateIfaceDesc iface udiHidGenericGetsetting s
  if found = false then return (s, false)
  udiHidSetup s

/-- The loop of `udc_req_ep`, which asks one interface after the other. -/
def udcAskIfaces : List ℕ → Usb → Option (Usb × Bool)
  | [], s => some (s, false)
  | iface :: ifaces, s => do
    let (s, found) ← udcUpdateIfaceDesc iface.toUInt8 udiHidGenericGetsetting s
    if found = false then return (s, false)
    let (s, ok) ← udiHidSetup s
    if ok then return (s, true)
    udcAskIfaces ifaces s

def udcReqEp (s : Usb) : Option (Usb × Bool) := do
  if s.udcNumConfiguration = 0 then return (s, false)
  udcAskIfaces (← udcIfaces s) s

/-- One decoder after the other, until one supports the request. -/
def orElse (applies : Bool) (f : Usb → Option (Usb × Bool)) (r : Usb × Bool) :
    Option (Usb × Bool) :=
  if applies ∧ r.2 = false then f r.1 else some r

def udcProcessSetup (s : Usb) : Option (Usb × Bool) := do
  let r := s.ctrlreq.req
  let s := { s with ctrlreq := { s.ctrlreq with payloadSize := 0, callback := none } }
  if r.isIn ∧ r.wLength = 0 then return (s, false)
  let result ← orElse (r.type = usbReqTypeStandard) udcReqstd (s, false)
  let result ← orElse (r.recipient = usbReqRecipInterface) udcReqIface result
  orElse (r.recipient = usbReqRecipEndpoint) udcReqEp result

end Usb

end PowerMeterDisplay

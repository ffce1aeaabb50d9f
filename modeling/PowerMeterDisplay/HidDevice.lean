import PowerMeterDisplay.Lib.Packets
import PowerMeterDisplay.UsbControl

/-!
# The device that the host sees

What the USB stack is for, without pointers, jobs and interrupts: a HID device with one interface.
`reply` and `accept` are the tables of the requests that it supports; `next` says what may go over
the bus, and how it changes the device.
-/

namespace PowerMeterDisplay

/-- What the control endpoint has for the host since the last request. -/
inductive Stage where
  /-- Nothing, in either direction. -/
  | idle
  /-- Nothing either, until a SETUP packet has been decoded. -/
  | asked (packet : List UInt8)
  /-- The rest of a reply, in packets, and how many packets the host has sent to end the request. -/
  | reply (packets : List (List UInt8)) (acks : ℕ)
  /-- Empty packets; the host may send data. -/
  | status
  deriving DecidableEq, Repr

/-- A reset leaves a SETUP packet to be decoded. -/
def Stage.reset : Stage → Stage
  | .asked packet => .asked packet
  | .idle | .reply _ _ | .status => .idle

structure HidDevice where
  address : UInt8
  configuration : UInt8
  on : Bool
  halted : Fin 4 → Bool
  rate : UInt8
  protocol : UInt8
  stage : Stage
  report : Option (Vector UInt8 64)

/-- The request in a SETUP packet, if it has the length of one. -/
def UsbSetupReq.ofPacket (packet : List UInt8) : Option UsbSetupReq :=
  if h : packet.length = 8 then some (.ofBytes ⟨packet.toArray, h⟩) else none

/-- A request about an endpoint whose number has no place in the tables that it is looked up in. -/
def UsbSetupReq.missesTables (r : UsbSetupReq) : Bool :=
  let n := (r.wIndex.toUInt8 &&& 0x0F).toNat
  r.type = usbReqTypeStandard && r.recipient = usbReqRecipEndpoint &&
    if r.isIn then r.bRequest = usbReqGetStatus && r.wLength = 2 && decide (2 < n)
    else
      r.wLength = 0 && r.wValue = usbEpFeatureHalt &&
        (r.bRequest = usbReqClearFeature && decide (2 < n) ||
          r.bRequest = usbReqSetFeature && (decide (n = 0) || decide (2 < n)))

namespace HidDevice

def start : HidDevice where
  address := 0
  configuration := 0
  on := false
  halted := fun _ => false
  rate := 0
  protocol := 0
  stage := .idle
  report := none

variable (d : HidDevice) (r : UsbSetupReq)

/-! ## The interface and the configuration -/

/-- The interface without its endpoints. -/
def switchOff : HidDevice :=
  { d with on := false, report := none,
           halted := Function.update (Function.update d.halted 1 false) 2 false }

/-- The interface with its endpoints. -/
def switchOn : HidDevice :=
  { d with on := true, report := none, rate := 0, protocol := 0,
           halted := Function.update (Function.update d.halted 1 false) 2 false }

def unconfigure : HidDevice :=
  if d.configuration = 0 then d else { d.switchOff with configuration := 0 }

def setConfiguration (configuration : UInt8) : HidDevice :=
  if configuration = 0 then d.unconfigure
  else { d.unconfigure.switchOn with configuration := configuration }

/-- An endpoint is halted, which ends a report under way, or taken out of its halt. -/
def setHalted (j : Fin 4) (halt : Bool) : HidDevice :=
  { d with halted := Function.update d.halted j halt,
           report := if halt ∧ j = 1 then none else d.report }

/-! ## Requests that ask for data -/

def stringDescriptor (name : List UInt8) : List UInt8 :=
  [2 + name.length.toUInt8 * 2, usbDtString] ++ name.flatMap fun c => le16 c.toUInt16

/-- The descriptors of the device by type and index. -/
def descriptor (type index : UInt8) : Option (List UInt8) :=
  if type = usbDtDevice then some udcDeviceDesc
  else if type = usbDtConfiguration ∧ index = 0 then some udcDesc
  else if type = usbDtString ∧ index = 0 then some udcStringDescLanguageid
  else if type = usbDtString ∧ index = 1 then some (stringDescriptor udcStringManufacturerName)
  else if type = usbDtString ∧ index = 2 then some (stringDescriptor udcStringProductName)
  else none

/-- The descriptors of the interface by type. -/
def hidDescriptor (type : UInt8) : Option (List UInt8) :=
  if type = usbDtHid then some udiHidDesc.bytes
  else if type = usbDtHidReport then some udiHidGenericReportDesc
  else none

/-- The endpoint of a request, if it has a job. -/
def endpoint : Option (Fin 4) := Usb.uddEpGetJob r.wIndex.toUInt8

def standardReply : Option (List UInt8) :=
  if r.recipient = usbReqRecipDevice then
    if r.bRequest = usbReqGetStatus then if r.wLength = 2 then some (le16 0) else none
    else if r.bRequest = usbReqGetDescriptor then
      descriptor (r.wValue >>> 8).toUInt8 r.wValue.toUInt8
    else if r.bRequest = usbReqGetConfiguration then
      if r.wLength = 1 then some [d.configuration] else none
    else none
  else if r.recipient = usbReqRecipInterface then
    if r.bRequest = usbReqGetInterface ∧ r.wLength = 1 ∧ d.configuration ≠ 0 ∧
        r.wIndex.toUInt8 = 0 then some [0]
    else none
  else if r.recipient = usbReqRecipEndpoint then
    if r.bRequest = usbReqGetStatus ∧ r.wLength = 2 then
      some (le16 (if (endpoint r).any d.halted then 1 else 0))
    else none
  else none

/-- Whether a request is for the interface. -/
def toInterface : Bool :=
  d.configuration ≠ 0 &&
    (r.recipient = usbReqRecipInterface && r.wIndex.toUInt8 = 0 ||
      r.recipient = usbReqRecipEndpoint)

def hidReply : Option (List UInt8) :=
  if r.type = usbReqTypeStandard ∧ r.bRequest = usbReqGetDescriptor then
    hidDescriptor (r.wValue >>> 8).toUInt8
  else if r.type = usbReqTypeClass ∧ r.bRequest = usbReqHidGetIdle then some [d.rate]
  else if r.type = usbReqTypeClass ∧ r.bRequest = usbReqHidGetProtocol then some [d.protocol]
  else none

/-- The reply to a request that asks for data, if it has one. -/
def reply : Option (List UInt8) :=
  if r.wLength = 0 then none
  else
    ((if r.type = usbReqTypeStandard then d.standardReply r else none).or
      (if d.toInterface r then d.hidReply r else none)).map (List.take r.wLength.toNat)

/-! ## Other requests -/

def standardAccept : HidDevice × Bool :=
  if r.wLength ≠ 0 then (d, false)
  else if r.recipient = usbReqRecipDevice then
    if r.bRequest = usbReqSetAddress then
      ({ d with address := (r.wValue &&& 0x7F).toUInt8 }, true)
    else if r.bRequest = usbReqClearFeature then (d, r.wValue = usbDevFeatureRemoteWakeup)
    else if r.bRequest = usbReqSetConfiguration ∧ d.address ≠ 0 ∧ r.wValue.toUInt8 ≤ 1 then
      (d.setConfiguration r.wValue.toUInt8, true)
    else (d, false)
  else if r.recipient = usbReqRecipInterface then
    if r.bRequest = usbReqSetInterface ∧ d.configuration ≠ 0 ∧ r.wIndex.toUInt8 = 0 then
      -- a setting that does not exist is refused, but the interface is then off
      if r.wValue.toUInt8 = 0 then (d.switchOn, true) else (d.switchOff, false)
    else (d, false)
  else if r.recipient = usbReqRecipEndpoint ∧ r.wValue = usbEpFeatureHalt then
    if r.bRequest = usbReqClearFeature then
      (((endpoint r).map fun j => d.setHalted j false).getD d, true)
    else if r.bRequest = usbReqSetFeature then
      (((endpoint r).map fun j => d.setHalted j true).getD d, true)
    else (d, false)
  else (d, false)

def hidAccept : HidDevice × Bool :=
  if r.type = usbReqTypeClass then
    if r.bRequest = usbReqHidSetReport ∧ r.wValue = usbHidReportTypeFeature <<< 8 ∧
        r.wLength = udiHidReportFeatureSize then (d, true)
    else if r.bRequest = usbReqHidSetIdle then
      ({ d with rate := (r.wValue >>> 8).toUInt8 }, true)
    else if r.bRequest = usbReqHidSetProtocol ∧ r.wLength = 0 then
      ({ d with protocol := r.wValue.toUInt8 }, true)
    else (d, false)
  else (d, false)

/-- A request that does not ask for data, and whether the device supports it. -/
def accept : HidDevice × Bool :=
  if r.type = usbReqTypeStandard then d.standardAccept r
  else if d.toInterface r then d.hidAccept r
  else (d, false)

/-! ## The bus -/

/-- The device after a request, and whether it supports it. -/
def decode : HidDevice × Bool :=
  if r.isIn then
    match d.reply r with
    | some bytes =>
      ({ d with stage := .reply (Transfer.packets 8 r.wLength.toNat bytes) 0 }, true)
    | none => ({ d with stage := .idle }, false)
  else
    ({ (d.accept r).1 with stage := if (d.accept r).2 then .status else .idle }, (d.accept r).2)

def next : UsbOutput → Option HidDevice
  | .setup packet => if packet.length ≤ 8 then some { d with stage := .asked packet } else none
  | .sent 0 bytes =>
    match d.stage with
    | .reply (p :: ps) acks => if bytes = p then some { d with stage := .reply ps acks } else none
    | .status => if bytes = [] then some d else none
    | .reply [] _ | .idle | .asked _ => none
  | .sent 1 bytes =>
    if d.report.map Vector.toList = some bytes then some { d with report := none } else none
  | .sent 2 _ => none
  | .received 0 bytes =>
    if 8 < bytes.length then none
    else
      match d.stage with
      | .reply ps acks => some { d with stage := .reply ps (acks + 1) }
      | .status => some d
      | .idle | .asked _ => none
  | .received 1 _ => none
  | .received 2 bytes =>
    if d.on ∧ d.halted 2 = false ∧ bytes.length ≤ 64 then some d else none
  | .decoded r ok =>
    match d.stage with
    | .asked packet =>
      if UsbSetupReq.ofPacket packet = some r ∧ (d.decode r).2 = ok then some (d.decode r).1
      else none
    | .reply _ _ | .idle | .status => none
  | .queued report =>
    if d.on ∧ d.halted 1 = false ∧ d.report = none then some { d with report := report } else none
  | .reset => some { d.unconfigure with address := 0, stage := d.stage.reset }

/-- What goes over the bus, as a machine. -/
def step : Machine HidDevice UsbOutput Empty := fun d x => (d.next x).map fun d => (d, [])

/-- The host has asked for what the tables have not, or has sent another packet although the request
had ended. -/
def provoked : Bool :=
  match d.stage with
  | .asked packet => (UsbSetupReq.ofPacket packet).any UsbSetupReq.missesTables
  | .reply _ acks => 2 ≤ acks
  | .idle | .status => false

end HidDevice

end PowerMeterDisplay

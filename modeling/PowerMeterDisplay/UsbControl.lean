import PowerMeterDisplay.Lib.Machine
import PowerMeterDisplay.UsbRequests

/-!
# The control endpoint, and the bus

The rest of `usb_device.c`: how a request goes through its stages on the control endpoint, and the
two interrupts.  What happens on the bus and the interrupts that tell of it are steps of their own,
so that anything may lie between them.  The hardware answers a token with data only if the endpoint
is allocated, neither halted nor marked NACK; it then marks the endpoint NACK and leaves a note in a
queue.  A SETUP token is always taken: it drops what the control endpoint was about to do.
-/

namespace PowerMeterDisplay

/-- What goes over the bus, and what becomes of it. -/
inductive UsbOutput where
  /-- The control endpoint has taken a SETUP packet. -/
  | setup (packet : List UInt8)
  /-- The host has taken data of an endpoint. -/
  | sent (n : Fin 3) (bytes : List UInt8)
  /-- An endpoint has taken data of the host. -/
  | received (n : Fin 3) (bytes : List UInt8)
  /-- A request has been decoded, and is supported or not. -/
  | decoded (r : UsbSetupReq) (ok : Bool)
  /-- A report has been accepted for sending. -/
  | queued (report : Vector UInt8 64)
  /-- A reset of the bus has been dealt with. -/
  | reset
  deriving DecidableEq, Repr

inductive UsbEvent where
  /-- A SETUP token of the host. -/
  | setup (packet : List UInt8)
  /-- An IN token for an endpoint. -/
  | inToken (n : Fin 3)
  /-- An OUT token for an endpoint. -/
  | outToken (n : Fin 3) (packet : List UInt8)
  /-- `USB_TRNCOMPL_vect`. -/
  | trncompl
  /-- `USB_BUSEVENT_vect` for a reset of the bus. -/
  | reset
  /-- `USB_BUSEVENT_vect` for a start of frame. -/
  | sof
  /-- `USB_BUSEVENT_vect` for a refused IN token of the control endpoint. -/
  | underflow
  /-- `USB_BUSEVENT_vect` for a refused OUT token of the control endpoint. -/
  | overflow
  /-- A call of `udi_hid_generic_send_report_in`. -/
  | sendReportIn (data : Vector UInt8 64)
  deriving DecidableEq, Repr

/-- Whether an endpoint answers a token with data. -/
def EpCtrl.ready (c : EpCtrl) : Bool := c.type ≠ .disable && !c.stall && !c.nack0

/-- An endpoint that has taken or given its data. -/
def EpCtrl.complete (c : EpCtrl) : EpCtrl := { c with nack0 := true, trncompl0 := true }

/-- The control endpoint drops what it was about to do. -/
def EpCtrl.drop (c : EpCtrl) : EpCtrl :=
  { c with stall := false, nack0 := true, trncompl0 := false }

namespace Usb

/-! ## The stages of a request -/

def uddCtrlInit (s : Usb) : Usb :=
  let s := s.setCtrl 1 { s.epCtrl 1 with nack0 := true, cnt := 0, trncompl0 := false }
  let s := s.setCtrl 0 { s.epCtrl 0 with trncompl0 := false }
  { s with ctrlreq := { s.ctrlreq with callback := none, payloadSize := 0 },
           controlState := .setup }

/-- `udd_control_in_enable_stall` and `udd_control_out_enable_stall`. -/
def uddControlEnableStall (s : Usb) : Usb :=
  let s := s.setCtrl 1 { s.epCtrl 1 with stall := true }
  s.setCtrl 0 { s.epCtrl 0 with stall := true }

def uddCtrlStallData (s : Usb) : Usb :=
  uddControlEnableStall { s with controlState := .stallReq }

def uddCtrlSendZlpIn (s : Usb) : Usb :=
  let s := { s with controlState := .handshakeWaitInZlp }
  s.setCtrl 1 { s.epCtrl 1 with cnt := 0, nack0 := false }

/-- `udd_control_out_clear_NACK0`. -/
def uddControlOutClearNack0 (s : Usb) : Usb := s.setCtrl 0 { s.epCtrl 0 with nack0 := false }

def uddCtrlSendZlpOut (s : Usb) : Usb :=
  uddControlOutClearNack0 { s with controlState := .handshakeWaitOutZlp }

/-- `main_hid_set_feature` does nothing with a feature report. -/
def uddCtrlEndofrequest (s : Usb) : Usb :=
  match s.ctrlreq.callback with
  | some .validAddress => { s with address := (s.ctrlreq.req.wValue &&& 0x7F).toUInt8 }
  | some .setfeatureValid => s
  | none => s

/-- The second branch is that of a request whose payload ends: the packet is then empty. -/
def uddCtrlInSent (s : Usb) : Usb :=
  if s.controlState = .handshakeWaitInZlp then uddCtrlInit (uddCtrlEndofrequest s)
  else
    let remain := s.ctrlreq.payloadSize - s.payloadNbTrans
    let s :=
      if remain = 0 then
        { s with prevPayloadNbTrans := s.prevPayloadNbTrans + s.payloadNbTrans } else s
    if remain = 0 ∧ (s.ctrlreq.req.wLength = s.prevPayloadNbTrans ∨ s.bShortpacket) then
      uddCtrlSendZlpOut s
    else
      let nb := if usbDeviceEpCtrlSize ≤ remain then usbDeviceEpCtrlSize else remain
      let p := s.ctrlreq.payload
      let s := s.setCtrl 1 { s.epCtrl 1 with
        cnt := nb, dataptr := ⟨p.object, p.offset + s.payloadNbTrans.toNat⟩, nack0 := false }
      { s with bShortpacket := decide ¬ usbDeviceEpCtrlSize ≤ remain,
               payloadNbTrans := s.payloadNbTrans + nb }

def uddCtrlOutReceived (s : Usb) : Option Usb := do
  if s.controlState = .handshakeWaitOutZlp then return uddCtrlInit (uddCtrlEndofrequest s)
  let cnt := (s.epCtrl 0).cnt
  -- the payload buffer may be too small
  let nb := if s.ctrlreq.payloadSize < s.payloadNbTrans + cnt
    then s.ctrlreq.payloadSize - s.payloadNbTrans else cnt
  let bytes ← s.read ⟨.ctrlBuffer, 0⟩ nb.toNat
  let p := s.ctrlreq.payload
  let s ← s.write ⟨p.object, p.offset + s.payloadNbTrans.toNat⟩ bytes
  let s := { s with payloadNbTrans := s.payloadNbTrans + nb }
  if usbDeviceEpCtrlSize ≠ nb ∨
      s.ctrlreq.req.wLength ≤ s.prevPayloadNbTrans + s.payloadNbTrans then
    return uddCtrlSendZlpIn
      { s with ctrlreq := { s.ctrlreq with payloadSize := s.payloadNbTrans } }
  -- the buffer is full, and nobody gives another
  if s.ctrlreq.payloadSize = s.payloadNbTrans then return uddCtrlStallData s
  return uddControlOutClearNack0 s

/-- A handshake may be hidden by the next SETUP packet. -/
def uddCtrlSetupReceived (s : Usb) : Option (Usb × List UsbOutput) := do
  let s :=
    match s.controlState with
    | .setup => s
    | .handshakeWaitInZlp | .handshakeWaitOutZlp => uddCtrlInit (uddCtrlEndofrequest s)
    | .dataOut | .dataIn | .stallReq => uddCtrlInit s
  if (s.epCtrl 0).cnt ≠ usbDeviceEpCtrlSize then return (s, [])
  let s := { s with ctrlreq := { s.ctrlreq with req := .ofBytes s.ctrlBuffer } }
  let r := s.ctrlreq.req
  let (s, ok) ← udcProcessSetup s
  if ok = false then return (uddCtrlStallData s, [.decoded r false])
  let s' := { s with prevPayloadNbTrans := 0, payloadNbTrans := 0 }
  if r.isIn then return (uddCtrlInSent { s' with controlState := .dataIn }, [.decoded r true])
  if r.wLength = 0 then return (uddCtrlSendZlpIn s, [.decoded r true])
  return (uddControlOutClearNack0 { s' with controlState := .dataOut }, [.decoded r true])

/-! ## Interrupts -/

/-- With what is done if no SETUP packet is pending. -/
def uddCtrlInterruptTcSetup (s otherwise : Usb) : Option (Usb × List UsbOutput) :=
  if s.setupFlag then uddCtrlSetupReceived { s with setupFlag := false }
  else some (otherwise, [])

def uddCtrlUnderflow (s : Usb) : Option (Usb × List UsbOutput) :=
  if s.tcFifo ≠ [] then some (s, [])
  else
    uddCtrlInterruptTcSetup s <|
      match s.controlState with
      | .dataOut => uddCtrlSendZlpIn s
      | .handshakeWaitOutZlp => uddControlEnableStall s
      | .setup | .dataIn | .handshakeWaitInZlp | .stallReq => s

def uddCtrlOverflow (s : Usb) : Option (Usb × List UsbOutput) :=
  if s.tcFifo ≠ [] then some (s, [])
  else
    uddCtrlInterruptTcSetup s <|
      match s.controlState with
      | .dataIn => uddCtrlSendZlpOut s
      | .handshakeWaitInZlp => uddControlEnableStall s
      | .setup | .dataOut | .handshakeWaitOutZlp | .stallReq => s

/-- The address of an endpoint by its place in the table. -/
def epAddress (i : Fin 6) : UInt8 :=
  (i.val / 2).toUInt8 + if i.val % 2 = 1 then 0x80 else 0

/-- With neither a note nor a SETUP packet the interrupt does not come. -/
def trncomplInterrupt (s : Usb) : Option (Usb × List UsbOutput) :=
  match s.tcFifo with
  | [] => uddCtrlInterruptTcSetup s s
  | i :: fifo =>
    let s := { s with tcFifo := fifo }
    if (s.epCtrl i).trncompl0 = false then some (s, [])
    else
      let s := s.setCtrl i { s.epCtrl i with trncompl0 := false }
      if i = 0 then (uddCtrlOutReceived s).map fun s => (s, [])
      else if i = 1 then some (uddCtrlInSent s, [])
      else (uddEpTransComplet transDepth (epAddress i) s).map fun s => (s, [])

/-- The loop that aborts the jobs ends before the last endpoint. -/
def resetInterrupt (s : Usb) : Option Usb := do
  let s ← uddEpAbort 0x01 s
  let s ← uddEpAbort 0x81 s
  let s ← udcReset s
  let s := { s with address := 0 }
  let s ← uddEpInit 0x00 0 usbDeviceEpCtrlSize s
  let s ← uddEpInit 0x80 0 usbDeviceEpCtrlSize s
  return uddCtrlInit (s.setCtrl 0 { s.epCtrl 0 with dataptr := ⟨.ctrlBuffer, 0⟩ })

/-- The interface has no `sof_notify`. -/
def udcSofNotify (s : Usb) : Option Usb := do
  if s.udcNumConfiguration ≠ 0 then
    let _ ← udcIfaces s
  return s

/-! ## The application -/

def udiHidGenericSendReportIn (data : Vector UInt8 64) (s : Usb) : Option (Usb × Bool) := do
  if s.bReportInFree = false then return (s, false)
  let (s, ok) ← uddEpRun (uddEpTransComplet transDepth) udiHidGenericEpIn false .reportIn
    udiHidReportInSize .reportInSent { s with reportIn := data }
  return ({ s with bReportInFree := !ok }, ok)

/-! ## The hardware -/

def setupToken (packet : List UInt8) (s : Usb) : Option (Usb × List UsbOutput) := do
  if (s.epCtrl 0).type ≠ .control ∨ (s.epCtrl 0).size.toNat < packet.length then return (s, [])
  let s ← s.write (s.epCtrl 0).dataptr packet
  let s := s.setCtrl 0 { (s.epCtrl 0).drop with cnt := packet.length.toUInt16 }
  return ({ s.setCtrl 1 (s.epCtrl 1).drop with setupFlag := true }, [.setup packet])

def inToken (n : Fin 3) (s : Usb) : Option (Usb × List UsbOutput) := do
  let i : Fin 6 := ⟨2 * n.val + 1, by omega⟩
  let c := s.epCtrl i
  if c.ready = false then return (s, [])
  let bytes ← s.read c.dataptr c.cnt.toNat
  let s := s.setCtrl i { c.complete with auxdata := c.cnt }
  return ({ s with tcFifo := s.tcFifo ++ [i] }, [.sent n bytes])

/-- The control endpoint takes one packet, the others take what was asked for. -/
def outToken (n : Fin 3) (packet : List UInt8) (s : Usb) : Option (Usb × List UsbOutput) := do
  let i : Fin 6 := ⟨2 * n.val, by omega⟩
  let c := s.epCtrl i
  let limit := if c.type = .control then c.size else c.auxdata
  if c.ready = false ∨ limit.toNat < packet.length then return (s, [])
  let s ← s.write c.dataptr packet
  let s := s.setCtrl i { c.complete with cnt := packet.length.toUInt16 }
  return ({ s with tcFifo := s.tcFifo ++ [i] }, [.received n packet])

def step : Machine Usb UsbEvent UsbOutput
  | s, .setup packet => s.setupToken packet
  | s, .inToken n => s.inToken n
  | s, .outToken n packet => s.outToken n packet
  | s, .trncompl => s.trncomplInterrupt
  | s, .reset => s.resetInterrupt.map fun s => (s, [.reset])
  | s, .sof => s.udcSofNotify.map fun s => (s, [])
  | s, .underflow => s.uddCtrlUnderflow
  | s, .overflow => s.uddCtrlOverflow
  | s, .sendReportIn data =>
    (s.udiHidGenericSendReportIn data).map fun r => (r.1, if r.2 then [.queued data] else [])

end Usb

end PowerMeterDisplay

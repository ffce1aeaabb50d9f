import PowerMeterDisplay.UsbDescriptors
import Mathlib.Algebra.GroupWithZero.Nat
import Mathlib.Logic.Function.Basic

/-!
# The USB endpoints

The variables of the USB stack with the registers and tables that it shares with the USB hardware,
and the part of `usb_device.c` that moves the reports: an endpoint is allocated, runs a job and is
aborted, halted or freed.  The tables are indexed by endpoint numbers that may come from the host,
and no check stops an index outside them: such an access is a fault (`none`), as are a copy outside
a buffer and a call of the wrong callback.
-/

namespace PowerMeterDisplay

/-! ## Variables -/

-- Numerals stand for the entries of the tables below.
instance outCache_nonempty : NeZero 2 := ⟨Nat.succ_ne_zero 1⟩
instance epJob_nonempty : NeZero 4 := ⟨Nat.succ_ne_zero 3⟩
instance endpoints_nonempty : NeZero 3 := ⟨Nat.succ_ne_zero 2⟩
instance epCtrl_nonempty : NeZero 6 := ⟨Nat.succ_ne_zero 5⟩

/-- What in memory the pointers of the stack lead to. -/
inductive UsbObject where
  | null
  | ctrlBuffer
  | outCache (k : Fin 2)
  | reportIn
  | reportOut
  | reportFeature
  | rate
  | protocol
  | deviceStatus
  | epStatus
  | numConfiguration
  | ifaceSetting
  | languageid
  | string
  | deviceDesc
  | confDesc
  | reportDesc
  deriving DecidableEq, Repr

structure UsbPointer where
  object : UsbObject
  offset : ℕ
  deriving DecidableEq, Repr

inductive EpType where
  | disable
  | control
  | bulk
  | isochronous
  deriving DecidableEq, Repr

/-- `USB_EP_t`: the fields of CTRL (with the size in bytes), the flags of STATUS, CNT, AUXDATA and
DATAPTR. -/
structure EpCtrl where
  type : EpType
  size : UInt16
  stall : Bool
  nack0 : Bool
  trncompl0 : Bool
  cnt : UInt16
  auxdata : UInt16
  dataptr : UsbPointer
  deriving DecidableEq, Repr

def EpCtrl.zero : EpCtrl := ⟨.disable, 8, false, false, false, 0, 0, ⟨.null, 0⟩⟩

/-- The callbacks of transfers that the interface registers. -/
inductive TransCallback where
  | reportOutReceived
  | reportInSent
  deriving DecidableEq, Repr

/-- `udd_ep_job_t`. -/
structure EpJob where
  busy : Bool
  bShortpacket : Bool
  bUseOutCacheBuffer : Bool
  buf : UsbObject
  bufSize : UInt16
  nbTrans : UInt16
  callTrans : Option TransCallback
  deriving DecidableEq, Repr

def EpJob.zero : EpJob := ⟨false, false, false, .null, 0, 0, none⟩

inductive SetupCallback where
  | validAddress
  | setfeatureValid
  deriving DecidableEq, Repr

/-- `udd_ctrl_request_t`; no code registers an `over_under_run`. -/
structure CtrlRequest where
  req : UsbSetupReq
  payload : UsbPointer
  payloadSize : UInt16
  callback : Option SetupCallback
  deriving DecidableEq, Repr

/-- `udd_ctrl_ep_state_t`. -/
inductive CtrlEpState where
  | setup
  | dataOut
  | dataIn
  | handshakeWaitInZlp
  | handshakeWaitOutZlp
  | stallReq
  deriving DecidableEq, Repr

structure Usb where
  -- udc.c
  udcDeviceStatus : UInt16
  udcNumConfiguration : UInt8
  udcPtrConf : Option (List UInt8)
  udcPtrIface : ℕ
  udcStringDesc : Vector UInt8 50
  udcEpStatus : UInt16
  udcIfaceSetting : UInt8
  -- udi_hid_generic.c
  rate : UInt8
  protocol : UInt8
  bReportInFree : Bool
  reportIn : Vector UInt8 64
  reportOut : Vector UInt8 64
  reportFeature : Vector UInt8 4
  -- HID_COM.c
  mainBGenericEnable : Bool
  msgReady : Bool
  hidRevcBuf : Vector UInt8 65
  -- usb_device.c
  ctrlreq : CtrlRequest
  controlState : CtrlEpState
  prevPayloadNbTrans : UInt16
  payloadNbTrans : UInt16
  bShortpacket : Bool
  ctrlBuffer : Vector UInt8 8
  epJob : Fin 4 → EpJob
  outCache : Fin 2 → Vector UInt8 64
  -- the registers and the table of the USB hardware
  address : UInt8
  epCtrl : Fin 6 → EpCtrl
  tcFifo : List (Fin 6)
  setupFlag : Bool

namespace Usb

/-- The variables once `udc_start` has run. -/
def start : Usb where
  udcDeviceStatus := 0
  udcNumConfiguration := 0
  udcPtrConf := none
  udcPtrIface := 0
  udcStringDesc := (Vector.replicate 50 0).set 1 usbDtString
  udcEpStatus := 0
  udcIfaceSetting := 0
  rate := 0
  protocol := 0
  bReportInFree := false
  reportIn := Vector.replicate 64 0
  reportOut := Vector.replicate 64 0
  reportFeature := Vector.replicate 4 0
  mainBGenericEnable := false
  msgReady := false
  hidRevcBuf := Vector.replicate 65 0
  ctrlreq := ⟨⟨0, 0, 0, 0, 0⟩, ⟨.null, 0⟩, 0, none⟩
  controlState := .setup
  prevPayloadNbTrans := 0
  payloadNbTrans := 0
  bShortpacket := false
  ctrlBuffer := Vector.replicate 8 0
  epJob := fun _ => .zero
  outCache := fun _ => Vector.replicate 64 0
  address := 0
  epCtrl := fun _ => .zero
  tcFifo := []
  setupFlag := false

/-- The byte of `udc_string_desc` that holds the type of the descriptor. -/
def stringType (s : Usb) : UInt8 := s.udcStringDesc[1]

def setCtrl (s : Usb) (i : Fin 6) (c : EpCtrl) : Usb :=
  { s with epCtrl := Function.update s.epCtrl i c }

def setJob (s : Usb) (j : Fin 4) (job : EpJob) : Usb :=
  { s with epJob := Function.update s.epJob j job }

section

variable (s : Usb) (i : Fin 6) (j : Fin 4) (c c' : EpCtrl) (job job' : EpJob)

@[simp] theorem epCtrl_setCtrl : (s.setCtrl i c).epCtrl = Function.update s.epCtrl i c := rfl
@[simp] theorem epJob_setCtrl : (s.setCtrl i c).epJob = s.epJob := rfl
@[simp] theorem epCtrl_setJob : (s.setJob j job).epCtrl = s.epCtrl := rfl
@[simp] theorem epJob_setJob : (s.setJob j job).epJob = Function.update s.epJob j job := rfl

@[simp] theorem setCtrl_setCtrl : (s.setCtrl i c).setCtrl i c' = s.setCtrl i c' := by
  simp [setCtrl]

@[simp] theorem setJob_setJob : (s.setJob j job).setJob j job' = s.setJob j job' := by
  simp [setJob]

@[simp] theorem setJob_setCtrl :
    (s.setCtrl i c).setJob j job = (s.setJob j job).setCtrl i c := rfl

end

/-! ## Memory -/

def contents (s : Usb) : UsbObject → List UInt8
  | .null => []
  | .ctrlBuffer => s.ctrlBuffer.toList
  | .outCache k => (s.outCache k).toList
  | .reportIn => s.reportIn.toList
  | .reportOut => s.reportOut.toList
  | .reportFeature => s.reportFeature.toList
  | .rate => [s.rate]
  | .protocol => [s.protocol]
  | .deviceStatus => le16 s.udcDeviceStatus
  | .epStatus => le16 s.udcEpStatus
  | .numConfiguration => [s.udcNumConfiguration]
  | .ifaceSetting => [s.udcIfaceSetting]
  | .languageid => udcStringDescLanguageid
  | .string => s.udcStringDesc.toList
  | .deviceDesc => udcDeviceDesc
  | .confDesc => udcDesc
  | .reportDesc => udiHidGenericReportDesc

/-- Some bytes behind a pointer; `none` leaves the object. -/
def read (s : Usb) (p : UsbPointer) (n : ℕ) : Option (List UInt8) :=
  if n = 0 ∨ p.offset + n ≤ (s.contents p.object).length then
    some (((s.contents p.object).drop p.offset).take n)
  else none

/-- An array with some bytes from an index on; `none` leaves the array. -/
def overwrite {n : ℕ} (v : Vector UInt8 n) (k : ℕ) (bs : List UInt8) : Option (Vector UInt8 n) :=
  if k + bs.length ≤ n then
    some (Vector.ofFn fun i => if k ≤ i.val then bs.getD (i.val - k) v[i] else v[i])
  else none

/-- Data from the host goes behind a pointer; `none` leaves the object, or hits what is no buffer
for such data. -/
def write (s : Usb) (p : UsbPointer) (bs : List UInt8) : Option Usb :=
  if bs = [] then some s
  else
    match p.object with
    | .ctrlBuffer => (overwrite s.ctrlBuffer p.offset bs).map fun v => { s with ctrlBuffer := v }
    | .outCache k => (overwrite (s.outCache k) p.offset bs).map fun v =>
        { s with outCache := Function.update s.outCache k v }
    | .reportOut => (overwrite s.reportOut p.offset bs).map fun v => { s with reportOut := v }
    | .reportFeature =>
      (overwrite s.reportFeature p.offset bs).map fun v => { s with reportFeature := v }
    | _ => none

/-! ## Endpoints -/

/-- Whether an endpoint address is that of an IN endpoint. -/
def epIsIn (ep : UInt8) : Bool := ep &&& 0x80 = 0x80

/-- The place of an endpoint in the tables. -/
def epIndex (ep : UInt8) : ℕ := 2 * (ep &&& 0x0F).toNat + if epIsIn ep then 1 else 0

def uddEpGetCtrl (ep : UInt8) : Option (Fin 6) :=
  if h : epIndex ep < 6 then some ⟨epIndex ep, h⟩ else none

/-- The table of the jobs has none for the control endpoint. -/
def uddEpGetJob (ep : UInt8) : Option (Fin 4) :=
  if h : 2 ≤ epIndex ep ∧ epIndex ep < 6 then some ⟨epIndex ep - 2, by omega⟩ else none

def uddEpInit (ep : UInt8) (bmAttributes : UInt8) (maxEndpointSize : UInt16) (s : Usb) :
    Option Usb := do
  let i ← uddEpGetCtrl ep
  let type := match (bmAttributes &&& 0x03).toNat with
    | 0 => EpType.control
    | 1 => .isochronous
    | _ => .bulk
  let size := if maxEndpointSize ∈ [8, 16, 32, 64, 128, 256, 512, 1023] then maxEndpointSize else 8
  return s.setCtrl i { s.epCtrl i with
    type := type, size := size, stall := false, nack0 := true, trncompl0 := false }

def uddEpAlloc (ep : UInt8) (bmAttributes : UInt8) (maxEndpointSize : UInt16) (s : Usb) :
    Option (Usb × Bool) := do
  let i ← uddEpGetCtrl ep
  if (s.epCtrl i).type ≠ .disable then return (s, false)
  return (← uddEpInit ep bmAttributes maxEndpointSize s, true)

/-- The call of a callback with `UDD_EP_TRANSFER_ABORT`. -/
def callTransAbort : Option TransCallback → Usb → Usb
  | some .reportInSent, s => { s with bReportInFree := true }
  | some .reportOutReceived, s => s
  | none, s => s

/-- `udd_ep_abort` on the entries of an endpoint. -/
def abortEntry (i : Fin 6) (j : Fin 4) (s : Usb) : Usb :=
  let s' := s.setCtrl i { s.epCtrl i with nack0 := true }
  if (s.epJob j).busy = false then s'
  else callTransAbort (s.epJob j).callTrans (s'.setJob j { s.epJob j with busy := false })

def uddEpAbort (ep : UInt8) (s : Usb) : Option Usb := do
  return s.abortEntry (← uddEpGetCtrl ep) (← uddEpGetJob ep)

def uddEpFree (ep : UInt8) (s : Usb) : Option Usb := do
  let s ← uddEpAbort ep s
  let i ← uddEpGetCtrl ep
  return s.setCtrl i { s.epCtrl i with type := .disable, size := 8, stall := false }

def uddEpIsHalted (ep : UInt8) (s : Usb) : Option Bool := do
  return (s.epCtrl (← uddEpGetCtrl ep)).stall

def uddEpSetHalt (ep : UInt8) (s : Usb) : Option Usb := do
  let i ← uddEpGetCtrl ep
  uddEpAbort ep (s.setCtrl i { s.epCtrl i with stall := true })

/-- A busy job of a halted endpoint would have its callback called as one for the end of the halt,
which none is. -/
def uddEpClearHalt (ep : UInt8) (s : Usb) : Option Usb := do
  let i ← uddEpGetCtrl ep
  if (s.epCtrl i).stall = false then return s
  let s := s.setCtrl i { s.epCtrl i with stall := false }
  let j ← uddEpGetJob ep
  if (s.epJob j).busy then none else return s

/-! ## Transfers -/

abbrev uddEndpointMaxTrans : UInt16 := 0x3FF

/-- `udd_ep_trans_complet` up to the end of the job, for an IN endpoint: whether the job goes on. -/
def uddEpNextIn (i : Fin 6) (j : Fin 4) (s : Usb) : Usb × Bool :=
  let c := s.epCtrl i
  let job : EpJob := { s.epJob j with nbTrans := (s.epJob j).nbTrans + c.auxdata }
  if job.nbTrans ≠ job.bufSize then
    let remain := job.bufSize - job.nbTrans
    let next := if uddEndpointMaxTrans < remain
      then uddEndpointMaxTrans - uddEndpointMaxTrans % c.size else remain
    ((s.setJob j { job with
        bShortpacket := job.bShortpacket && decide (next % c.size = 0) }).setCtrl i
      { c with auxdata := 0, cnt := next, dataptr := ⟨job.buf, job.nbTrans.toNat⟩,
               nack0 := false }, true)
  else if job.bShortpacket then
    ((s.setJob j { job with bShortpacket := false }).setCtrl i
      { c with auxdata := 0, cnt := 0, nack0 := false }, true)
  else (s.setJob j job, false)

/-- The same for an OUT endpoint. -/
def uddEpNextOut (i : Fin 6) (j : Fin 4) (s : Usb) : Option (Usb × Bool) := do
  let c := s.epCtrl i
  let job := s.epJob j
  let cache : UsbObject := .outCache ⟨j.val / 2, by omega⟩
  let s ←
    if job.bUseOutCacheBuffer then
      s.write ⟨job.buf, job.nbTrans.toNat⟩ (← s.read ⟨cache, 0⟩ (job.bufSize % c.size).toNat)
    else pure s
  let nbTrans := if job.bufSize < job.nbTrans + c.cnt then job.bufSize else job.nbTrans + c.cnt
  let job := { job with nbTrans := nbTrans }
  if c.cnt = c.auxdata ∧ job.nbTrans ≠ job.bufSize then
    let remain := job.bufSize - job.nbTrans
    let next := if uddEndpointMaxTrans < remain
      then uddEndpointMaxTrans - uddEndpointMaxTrans % c.size else remain - remain % c.size
    if next < c.size then
      return ((s.setJob j { job with bUseOutCacheBuffer := true }).setCtrl i
        { c with cnt := 0, auxdata := c.size, dataptr := ⟨cache, 0⟩, nack0 := false }, true)
    else
      return ((s.setJob j job).setCtrl i
        { c with cnt := 0, auxdata := next, dataptr := ⟨job.buf, job.nbTrans.toNat⟩,
                 nack0 := false }, true)
  else return (s.setJob j job, false)

/-- `udd_ep_run`, up to what `udd_ep_trans_complet` does in it. -/
def uddEpRun (transComplet : UInt8 → Usb → Option Usb) (ep : UInt8) (bShortpacket : Bool)
    (buf : UsbObject) (bufSize : UInt16) (callback : TransCallback) (s : Usb) :
    Option (Usb × Bool) := do
  let i ← uddEpGetCtrl ep
  let j ← uddEpGetJob ep
  let c := s.epCtrl i
  if c.type = .disable then return (s, false)
  if c.type ≠ .isochronous ∧ c.stall then return (s, false)
  if (s.epJob j).busy then return (s, false)
  let s := s.setJob j ⟨true, bShortpacket || decide (bufSize = 0), false, buf, bufSize, 0, callback⟩
  if epIsIn ep then
    return (← transComplet ep (s.setCtrl i { c with auxdata := 0 }), true)
  else if c.type = .isochronous ∧ bufSize % c.size ≠ 0 then
    return (s.setJob j { s.epJob j with busy := false }, false)
  else
    return (← transComplet ep (s.setCtrl i { c with cnt := 0, auxdata := 0 }), true)

def hidMessage (s : Usb) : Option Usb := do
  let buf ← if s.msgReady = false then overwrite s.hidRevcBuf 0 s.reportOut.toList
    else pure s.hidRevcBuf
  return { s with hidRevcBuf := buf, msgReady := true }

def udiHidGenericReportOutEnable (transComplet : UInt8 → Usb → Option Usb) (s : Usb) :
    Option (Usb × Bool) :=
  uddEpRun transComplet udiHidGenericEpOut false .reportOut udiHidReportOutSize
    .reportOutReceived s

/-- The call of a callback with `UDD_EP_TRANSFER_OK` and the number of bytes moved. -/
def callTransOk (transComplet : UInt8 → Usb → Option Usb) (nbTrans : UInt16) :
    Option TransCallback → Usb → Option Usb
  | some .reportOutReceived, s => do
    let s ← if nbTrans = udiHidReportOutSize then hidMessage s else pure s
    return (← udiHidGenericReportOutEnable transComplet s).1
  | some .reportInSent, s => some { s with bReportInFree := true }
  | none, s => some s

/-- The callback of a job may start the next one, so that `udd_ep_trans_complet` is called again in
itself, at most as often as the first argument says. -/
def uddEpTransComplet : ℕ → UInt8 → Usb → Option Usb
  | 0, _, _ => none
  | depth + 1, ep, s => do
    let i ← uddEpGetCtrl ep
    let j ← uddEpGetJob ep
    let (s, more) ← if epIsIn ep then pure (uddEpNextIn i j s) else uddEpNextOut i j s
    if more then return s
    let job := s.epJob j
    if job.busy = false then return s
    callTransOk (uddEpTransComplet depth) job.nbTrans job.callTrans
      (s.setJob j { job with busy := false })

/-- How deep the calls are nested when an interrupt ends a transfer. -/
abbrev transDepth : ℕ := 2

end Usb

end PowerMeterDisplay

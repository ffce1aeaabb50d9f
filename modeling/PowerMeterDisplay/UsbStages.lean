import PowerMeterDisplay.UsbReply

/-!
# The stages of a request

What the control endpoint may do for the host in each state of `udd_ctrl_ep_state_t`, as an
invariant that ties the variables of the stack to the stage of the request in `HidDevice`.  With the
invariant of the endpoints it makes up the invariant of the stack, `Valid`.

Two things get out of it.  A request about an endpoint outside the tables is one (`missing`).  The
other is a packet that the host sends although its request has ended (`late`): the stack takes it
for data of the next one and copies it behind bytes that it has not reset, by a length that wraps.
-/

namespace PowerMeterDisplay

namespace EpCtrl

variable {c : EpCtrl}

/-- The endpoint answers tokens, or has a packet that is still to be dealt with. -/
def Active (c : EpCtrl) : Prop := c.ready = true ∨ c.trncompl0 = true

/-- A packet that is still to be dealt with keeps the endpoint from the next one. -/
def Taken (c : EpCtrl) : Prop := c.trncompl0 = true → c.nack0 = true

/-- A SETUP packet has come in. -/
structure Dropped (c : EpCtrl) : Prop where
  stall : c.stall = false
  nack0 : c.nack0 = true
  trncompl0 : c.trncompl0 = false

theorem not_active (hnack : c.nack0 = true) (htrncompl : c.trncompl0 = false) : ¬ c.Active := by
  rintro (h | h)
  · simp [ready, hnack] at h
  · exact Bool.false_ne_true (htrncompl.symm.trans h)

theorem not_active_of_stall (hstall : c.stall = true) (htrncompl : c.trncompl0 = false) :
    ¬ c.Active := by
  rintro (h | h)
  · simp [ready, hstall] at h
  · exact Bool.false_ne_true (htrncompl.symm.trans h)

theorem Dropped.not_active (h : c.Dropped) : ¬ c.Active := EpCtrl.not_active h.nack0 h.trncompl0

theorem Dropped.taken (h : c.Dropped) : c.Taken := fun _ => h.nack0

end EpCtrl

namespace Usb

variable {s s' : Usb} {d d' : HidDevice} {stage : Stage}

/-! ## The control endpoint -/

/-- A reply is under way: the packets that are still to be sent, of which the endpoint has the first
one until it is sent. -/
def Replying (s : Usb) (packets : List (List UInt8)) : Prop :=
  ∃ bytes rest, s.Carries bytes ∧ bytes.length ≤ s.ctrlreq.req.wLength.toNat ∧
    s.RemainsOf bytes rest ∧
    if (s.epCtrl 1).trncompl0 then packets = rest
    else ∃ p, (s.epCtrl 1).dataptr.object = s.ctrlreq.payload.object ∧
      s.read (s.epCtrl 1).dataptr (s.epCtrl 1).cnt.toNat = some p ∧ packets = p :: rest

/-- What the last request may still have to do. -/
def Ending (s : Usb) : CtrlEpState → Prop
  | .setup => s.ctrlreq.callback = none ∧ s.ctrlreq.payloadSize = 0
  | .dataOut | .dataIn | .handshakeWaitOutZlp | .stallReq =>
    s.ctrlreq.callback ≠ some .validAddress
  | .handshakeWaitInZlp => True

/-- What the control endpoint may do for the host in each of its states. -/
def Phase (s : Usb) (stage : Stage) : CtrlEpState → Prop
  | .setup => ¬ (s.epCtrl 1).Active ∧ (s.epCtrl 0).Taken ∧
    ((s.epCtrl 0).Active →
      s.payloadNbTrans = 0 ∧ stage = .status ∨
      s.payloadNbTrans ≠ 0 ∧ ∃ packets acks, stage = .reply packets acks ∧ 1 ≤ acks ∧
        ((s.epCtrl 0).trncompl0 = true → 2 ≤ acks))
  | .dataOut => ¬ (s.epCtrl 1).Active ∧ (s.epCtrl 0).Taken ∧ s.payloadNbTrans = 0 ∧ s.Fills ∧
    stage = .status
  | .dataIn => ¬ (s.epCtrl 0).Active ∧ (s.epCtrl 1).Taken ∧ s.payloadNbTrans ≠ 0 ∧
    ∃ packets, stage = .reply packets 0 ∧ ((s.epCtrl 1).Active → s.Replying packets)
  | .handshakeWaitInZlp => (s.epCtrl 0).Taken ∧ ((s.epCtrl 1).Active → (s.epCtrl 1).cnt = 0) ∧
    ((s.epCtrl 0).Active → s.payloadNbTrans = 0 ∧ s.Fills) ∧ stage = .status
  | .handshakeWaitOutZlp => (s.epCtrl 1).Taken ∧ s.payloadNbTrans ≠ 0 ∧
    ∃ packets acks, stage = .reply packets acks ∧ ((s.epCtrl 0).trncompl0 = true → 1 ≤ acks) ∧
      ((s.epCtrl 1).Active → s.Replying packets)
  | .stallReq => ¬ (s.epCtrl 1).Active ∧ ¬ (s.epCtrl 0).Active

/-- A SETUP packet is still to be decoded. -/
structure Asks (s : Usb) (stage : Stage) : Prop where
  out : (s.epCtrl 0).Dropped
  inn : (s.epCtrl 1).Dropped
  packet : ∃ packet, stage = .asked packet ∧ UsbSetupReq.ofPacket packet =
    if (s.epCtrl 0).cnt = usbDeviceEpCtrlSize then some (.ofBytes s.ctrlBuffer) else none

/-- The control endpoint. -/
structure Control (s : Usb) (stage : Stage) : Prop where
  type_eq : (s.epCtrl 0).type = .disable ∨
    (s.epCtrl 0).type = .control ∧ (s.epCtrl 0).size = 8 ∧
      (s.epCtrl 0).dataptr = ⟨.ctrlBuffer, 0⟩ ∧ (s.epCtrl 1).type = .control
  cnt_le : (s.epCtrl 0).cnt ≤ 8
  nbTrans_le : s.payloadNbTrans ≤ 64
  ending : s.Ending s.controlState
  asks : s.setupFlag = true → s.Asks stage
  phase : s.setupFlag ≠ true → s.Phase stage s.controlState

/-- The invariant of the stack, with the device that the host sees. -/
structure Valid (s : Usb) (d : HidDevice) : Prop where
  served : s.Served
  /-- The hardware has left a note of every packet. -/
  noted : ∀ i, (s.epCtrl i).trncompl0 = true → i ∈ s.tcFifo
  /-- While the interface is on, a packet belongs to a job. -/
  owned : s.mainBGenericEnable = true →
    ∀ j, (s.epCtrl (ctrlOf j)).trncompl0 = true → (s.epJob j).busy = true
  control : s.Control d.stage
  device_eq : s.device d.stage = d

/-- What the variables and the registers of the stack hold of the device.  The register of the
address is behind while the request for a new one has not ended. -/
structure Holds (s : Usb) (d : HidDevice) : Prop where
  address : s.ctrlreq.callback ≠ some .validAddress → s.address = d.address
  coming : s.ctrlreq.callback = some .validAddress → s.controlState = .handshakeWaitInZlp ∧
    (s.ctrlreq.req.wValue &&& 0x7F).toUInt8 = d.address
  configuration : s.udcNumConfiguration = d.configuration
  on : s.mainBGenericEnable = d.on
  halted : ∀ j, (s.epCtrl (ctrlOf j)).stall = d.halted j
  rate : s.rate = d.rate
  protocol : s.protocol = d.protocol
  report : (if (s.epCtrl 3).ready then some s.reportIn else none) = d.report
  control : s.Control d.stage

theorem Control.waits (h : s.Control stage) (hcall : s.ctrlreq.callback = some .validAddress) :
    s.controlState = .handshakeWaitInZlp := by
  have hending := h.ending
  cases hstate : s.controlState <;> rw [hstate] at hending
  case setup => exact absurd (hcall.symm.trans hending.1) (by decide)
  all_goals exact absurd hcall hending

theorem Valid.holds (h : s.Valid d) : s.Holds d where
  address hcall := (if_neg hcall).symm.trans (congrArg HidDevice.address h.device_eq)
  coming hcall :=
    ⟨h.control.waits hcall, (if_pos hcall).symm.trans (congrArg HidDevice.address h.device_eq)⟩
  configuration := congrArg HidDevice.configuration h.device_eq
  on := congrArg HidDevice.on h.device_eq
  halted j := congrArg (fun d => d.halted j) h.device_eq
  rate := congrArg HidDevice.rate h.device_eq
  protocol := congrArg HidDevice.protocol h.device_eq
  report := congrArg HidDevice.report h.device_eq
  control := h.control

theorem start_valid : start.Valid .start where
  served := ⟨⟨.inl ⟨rfl, rfl⟩, ⟨rfl, nofun, nofun, nofun, nofun, nofun, nofun⟩,
    ⟨rfl, nofun, nofun, nofun, nofun⟩, ⟨rfl, rfl, rfl⟩, ⟨rfl, rfl, rfl⟩⟩, rfl, rfl⟩
  noted := nofun
  owned := nofun
  control := ⟨.inl rfl, by decide, by decide, ⟨rfl, rfl⟩, nofun, fun _ => by
    refine ⟨?_, nofun, ?_⟩ <;> rintro (h | h) <;> exact nomatch h⟩
  device_eq := rfl

/-! ## Strays -/

/-- The next interrupt decodes a request that misses the tables. -/
def missing (s : Usb) : Bool :=
  s.tcFifo = [] && s.setupFlag && (s.epCtrl 0).cnt = usbDeviceEpCtrlSize &&
    (UsbSetupReq.ofBytes s.ctrlBuffer).missesTables

/-- The next interrupt finds a packet of the host behind the end of a request, whose bytes are still
counted. -/
def late (s : Usb) : Bool :=
  s.tcFifo.head? = some 0 && (s.epCtrl 0).trncompl0 && s.controlState = .setup &&
    s.payloadNbTrans ≠ 0

/-- The events that the stack does not get over. -/
def strays (s : Usb) : UsbEvent → Bool
  | .trncompl => s.missing || s.late
  | .underflow | .overflow => s.missing
  | .setup _ | .inToken _ | .outToken _ _ | .reset | .sof | .sendReportIn _ => false

/-! ## The interface beside the control endpoint -/

/-- The part of the state that belongs to the interface. -/
structure IfacePart where
  epCtrl : Fin 4 → EpCtrl
  epJob : Fin 4 → EpJob
  on : Bool
  free : Bool
  numConfiguration : UInt8
  ptrConf : Option (List UInt8)
  deviceStatus : UInt16
  stringType : UInt8
  rate : UInt8
  protocol : UInt8
  reportIn : Vector UInt8 64

def ifacePart (s : Usb) : IfacePart where
  epCtrl j := s.epCtrl (ctrlOf j)
  epJob := s.epJob
  on := s.mainBGenericEnable
  free := s.bReportInFree
  numConfiguration := s.udcNumConfiguration
  ptrConf := s.udcPtrConf
  deviceStatus := s.udcDeviceStatus
  stringType := s.stringType
  rate := s.rate
  protocol := s.protocol
  reportIn := s.reportIn

theorem ifacePart_congr (hrest : { s'.ifacePart with epCtrl := s.ifacePart.epCtrl } = s.ifacePart)
    (h₂ : s'.epCtrl 2 = s.epCtrl 2) (h₃ : s'.epCtrl 3 = s.epCtrl 3)
    (h₄ : s'.epCtrl 4 = s.epCtrl 4) (h₅ : s'.epCtrl 5 = s.epCtrl 5) :
    s'.ifacePart = s.ifacePart := by
  have hctrl : s'.ifacePart.epCtrl = s.ifacePart.epCtrl := funext fun
    | 0 => h₂
    | 1 => h₃
    | 2 => h₄
    | 3 => h₅
  rw [← hrest, ← hctrl]

theorem epCtrl_of_ifacePart (h : s'.ifacePart = s.ifacePart) (j : Fin 4) :
    s'.epCtrl (ctrlOf j) = s.epCtrl (ctrlOf j) :=
  congrFun (congrArg IfacePart.epCtrl h) j

theorem Served.congr (hs : s.Served) (h : s'.ifacePart = s.ifacePart) : s'.Served := by
  obtain ⟨⟨hconf, hin, hout, h₁, h₂⟩, hstatus, hstring⟩ := hs
  have hctrl := epCtrl_of_ifacePart h
  have hjob : s'.epJob = s.epJob := congrArg IfacePart.epJob h
  have hon : s'.mainBGenericEnable = s.mainBGenericEnable := congrArg IfacePart.on h
  have hfree : s'.bReportInFree = s.bReportInFree := congrArg IfacePart.free h
  have hnum : s'.udcNumConfiguration = s.udcNumConfiguration :=
    congrArg IfacePart.numConfiguration h
  have hptr : s'.udcPtrConf = s.udcPtrConf := congrArg IfacePart.ptrConf h
  refine ⟨?_, (congrArg IfacePart.deviceStatus h).trans hstatus,
    (congrArg IfacePart.stringType h).trans hstring⟩
  rw [Settled, hjob, hon, hfree, hnum, hptr]
  refine ⟨hconf, ?_, ?_, ?_, ?_⟩
  · exact (hctrl 1).symm ▸ hin
  · exact (hctrl 2).symm ▸ hout
  · exact (hctrl 0).symm ▸ h₁
  · exact (hctrl 3).symm ▸ h₂

theorem device_congr (h : s'.ifacePart = s.ifacePart)
    (haddress : s'.comingAddress = s.comingAddress) : s'.device stage = s.device stage := by
  have hdevice (t : Usb) : t.device stage =
    { address := t.comingAddress, configuration := t.ifacePart.numConfiguration,
      on := t.ifacePart.on, halted := fun j => (t.ifacePart.epCtrl j).stall,
      rate := t.ifacePart.rate, protocol := t.ifacePart.protocol, stage := stage,
      report := if (t.ifacePart.epCtrl 1).ready then some t.ifacePart.reportIn else none } := rfl
  rw [hdevice, hdevice, h, haddress]

/-- A step of the control endpoint. -/
theorem Valid.of_control (h : s.Valid d) (hiface : s'.ifacePart = s.ifacePart)
    (haddress : s'.comingAddress = s.comingAddress)
    (hnoted : ∀ i, (s'.epCtrl i).trncompl0 = true → i ∈ s'.tcFifo)
    (hcontrol : s'.Control stage) : s'.Valid { d with stage := stage } where
  served := h.served.congr hiface
  noted := hnoted
  owned hon j hj := by
    rw [epCtrl_of_ifacePart hiface] at hj
    rw [show s'.epJob = s.epJob from congrArg IfacePart.epJob hiface]
    exact h.owned ((congrArg IfacePart.on hiface).symm.trans hon) j hj
  control := hcontrol
  device_eq := by
    rw [device_congr hiface haddress]
    exact congrArg (fun d => { d with stage := stage }) h.device_eq

theorem Valid.of_control_same (h : s.Valid d) (hiface : s'.ifacePart = s.ifacePart)
    (haddress : s'.comingAddress = s.comingAddress)
    (hnoted : ∀ i, (s'.epCtrl i).trncompl0 = true → i ∈ s'.tcFifo)
    (hcontrol : s'.Control d.stage) : s'.Valid d :=
  show s'.Valid { d with stage := d.stage } from h.of_control hiface haddress hnoted hcontrol

/-! ## Memory and replies -/

/-- The variables that replies are sent from. -/
structure ReplyMemory where
  rate : UInt8
  protocol : UInt8
  udcDeviceStatus : UInt16
  udcEpStatus : UInt16
  udcNumConfiguration : UInt8
  udcIfaceSetting : UInt8
  udcStringDesc : Vector UInt8 50

def replyMemory (s : Usb) : ReplyMemory where
  rate := s.rate
  protocol := s.protocol
  udcDeviceStatus := s.udcDeviceStatus
  udcEpStatus := s.udcEpStatus
  udcNumConfiguration := s.udcNumConfiguration
  udcIfaceSetting := s.udcIfaceSetting
  udcStringDesc := s.udcStringDesc

/-- The part of the state that a reply under way depends on. -/
structure ReplyPart where
  inn : EpCtrl
  ctrlreq : CtrlRequest
  payloadNbTrans : UInt16
  prevPayloadNbTrans : UInt16
  bShortpacket : Bool
  memory : ReplyMemory

def replyPart (s : Usb) : ReplyPart where
  inn := s.epCtrl 1
  ctrlreq := s.ctrlreq
  payloadNbTrans := s.payloadNbTrans
  prevPayloadNbTrans := s.prevPayloadNbTrans
  bShortpacket := s.bShortpacket
  memory := s.replyMemory

theorem contents_of_replyMemory (h : s'.replyMemory = s.replyMemory) {o : UsbObject}
    (ho : o.isReply = true) : s'.contents o = s.contents o := by
  simp only [replyMemory, ReplyMemory.mk.injEq] at h
  obtain ⟨hrate, hprotocol, hstatus, hep, hnum, hsetting, hstring⟩ := h
  cases o with
  | null | ctrlBuffer | outCache | reportIn | reportOut | reportFeature => cases ho
  | rate => exact congrArg (fun x => [x]) hrate
  | protocol => exact congrArg (fun x => [x]) hprotocol
  | deviceStatus => exact congrArg le16 hstatus
  | epStatus => exact congrArg le16 hep
  | numConfiguration => exact congrArg (fun x => [x]) hnum
  | ifaceSetting => exact congrArg (fun x => [x]) hsetting
  | string => exact congrArg Vector.toList hstring
  | languageid | deviceDesc | confDesc | reportDesc => rfl

theorem Carries.congr {bytes : List UInt8} (h : s.Carries bytes) (hreq : s'.ctrlreq = s.ctrlreq)
    (hmemory : s'.replyMemory = s.replyMemory) : s'.Carries bytes := by
  obtain ⟨hreply, hbound, hbytes⟩ := h
  rw [← contents_of_replyMemory hmemory hreply] at hbytes
  rw [← hreq] at hreply hbound hbytes
  exact ⟨hreply, hbound, hbytes⟩

theorem Replying.congr {packets : List (List UInt8)} (h : s.Replying packets)
    (hpart : s'.replyPart = s.replyPart) : s'.Replying packets := by
  obtain ⟨bytes, rest, hcarries, hlen, hrest, hpackets⟩ := h
  have hinn : s'.epCtrl 1 = s.epCtrl 1 := congrArg ReplyPart.inn hpart
  have hreq : s'.ctrlreq = s.ctrlreq := congrArg ReplyPart.ctrlreq hpart
  have hnb : s'.payloadNbTrans = s.payloadNbTrans := congrArg ReplyPart.payloadNbTrans hpart
  have hprev : s'.prevPayloadNbTrans = s.prevPayloadNbTrans :=
    congrArg ReplyPart.prevPayloadNbTrans hpart
  have hshort : s'.bShortpacket = s.bShortpacket := congrArg ReplyPart.bShortpacket hpart
  have hmemory : s'.replyMemory = s.replyMemory := congrArg ReplyPart.memory hpart
  refine ⟨bytes, rest, hcarries.congr hreq hmemory, ?_, ?_, ?_⟩
  · rwa [hreq]
  · rwa [RemainsOf, hreq, hnb, hprev, hshort]
  · rw [hinn, hreq]
    split_ifs at hpackets ⊢ with hdone
    · exact hpackets
    · obtain ⟨p, hobject, hread, hp⟩ := hpackets
      refine ⟨p, hobject, ?_, hp⟩
      rw [read, hobject] at hread ⊢
      rwa [contents_of_replyMemory hmemory hcarries.isReply]

/-- A step that leaves the control endpoint alone. -/
theorem Control.congr (h : s.Control stage) (hout : s'.epCtrl 0 = s.epCtrl 0)
    (hstate : s'.controlState = s.controlState) (hflag : s'.setupFlag = s.setupFlag)
    (hbuffer : s'.ctrlBuffer = s.ctrlBuffer) (hpart : s'.replyPart = s.replyPart) :
    s'.Control stage := by
  have hinn : s'.epCtrl 1 = s.epCtrl 1 := congrArg ReplyPart.inn hpart
  have hreq : s'.ctrlreq = s.ctrlreq := congrArg ReplyPart.ctrlreq hpart
  have hnb : s'.payloadNbTrans = s.payloadNbTrans := congrArg ReplyPart.payloadNbTrans hpart
  obtain ⟨htype, hcnt, hle, hending, hasks, hphase⟩ := h
  refine ⟨by rwa [hout, hinn], by rwa [hout], by rwa [hnb], ?_, fun hf => ?_, fun hf => ?_⟩
  · rw [hstate]
    cases hs : s.controlState <;> rw [hs] at hending <;> simp only [Ending, hreq] at hending ⊢ <;>
      exact hending
  · obtain ⟨h₀, h₁, hpacket⟩ := hasks (hflag ▸ hf)
    exact ⟨hout ▸ h₀, hinn ▸ h₁, by rwa [hout, hbuffer]⟩
  · have hphase := hphase (hflag ▸ hf)
    rw [hstate]
    cases hs : s.controlState <;> rw [hs] at hphase <;>
      simp only [Phase, Fills, hout, hinn, hreq, hnb] at hphase ⊢
    case dataIn =>
      obtain ⟨h₀, h₁, hne, packets, hstage, hreply⟩ := hphase
      exact ⟨h₀, h₁, hne, packets, hstage, fun ha => (hreply ha).congr hpart⟩
    case handshakeWaitOutZlp =>
      obtain ⟨h₁, hne, packets, acks, hstage, hacks, hreply⟩ := hphase
      exact ⟨h₁, hne, packets, acks, hstage, hacks, fun ha => (hreply ha).congr hpart⟩
    all_goals exact hphase

/-- While a SETUP packet waits, the endpoint has nothing for the host. -/
theorem Control.flag (h : s.Control stage) (hactive : (s.epCtrl 0).Active ∨ (s.epCtrl 1).Active) :
    s.setupFlag ≠ true := fun hflag =>
  hactive.elim (h.asks hflag).out.not_active (h.asks hflag).inn.not_active

theorem Valid.provoked_of_missing (h : s.Valid d) (hmissing : s.missing = true) :
    d.provoked = true := by
  simp only [missing, Bool.and_eq_true, decide_eq_true_eq] at hmissing
  obtain ⟨⟨⟨-, hflag⟩, hcnt⟩, hmiss⟩ := hmissing
  obtain ⟨packet, hstage, hpacket⟩ := (h.control.asks hflag).packet
  rw [if_pos hcnt] at hpacket
  simp only [HidDevice.provoked, hstage, hpacket]
  exact hmiss

theorem Valid.provoked_of_late (h : s.Valid d) (hlate : s.late = true) : d.provoked = true := by
  simp only [late, Bool.and_eq_true, decide_eq_true_eq] at hlate
  obtain ⟨⟨⟨-, hdone⟩, hstate⟩, hne⟩ := hlate
  have hactive : (s.epCtrl 0).Active := .inr hdone
  have hphase := h.control.phase (h.control.flag (.inl hactive))
  rw [hstate] at hphase
  obtain ⟨hzero, -⟩ | ⟨-, packets, acks, hstage, -, hacks⟩ := hphase.2.2 hactive
  · exact absurd hzero hne
  · simp only [HidDevice.provoked, hstage]
    exact decide_eq_true (hacks hdone)

/-- Only a host that goes too far makes the stack do so. -/
theorem Valid.provoked (h : s.Valid d) {e : UsbEvent} (hstrays : s.strays e = true) :
    d.provoked = true := by
  cases e with
  | trncompl =>
    exact ((Bool.or_eq_true ..).mp hstrays).elim h.provoked_of_missing h.provoked_of_late
  | underflow => exact h.provoked_of_missing hstrays
  | overflow => exact h.provoked_of_missing hstrays
  | setup | inToken | outToken | reset | sof | sendReportIn => cases hstrays

end Usb

end PowerMeterDisplay

import PowerMeterDisplay.UsbTokens

/-!
# A request is decoded

Once every note of the hardware has been read, a SETUP packet brings the control endpoint to the
stage of the request in it: what the last request still had to do is done, `udc_process_setup`
decodes the new one, and the endpoint is set up for the reply, for data of the host or for the end
of the request.
-/

namespace PowerMeterDisplay

/-! ## Replies of the device -/

namespace HidDevice

variable {d : HidDevice} {r : UsbSetupReq} {bytes : List UInt8}

theorem descriptor_ne_nil {type index : UInt8} (h : descriptor type index = some bytes) :
    bytes ≠ [] := by
  rintro rfl
  rw [descriptor] at h
  have hdevice : udcDeviceDesc ≠ [] := by decide
  have hconf : udcDesc ≠ [] := by decide
  split_ifs at h
  · exact hdevice (Option.some.inj h)
  · exact hconf (Option.some.inj h)
  all_goals cases h

theorem standardReply_ne_nil (h : d.standardReply r = some bytes) : bytes ≠ [] := by
  rw [standardReply] at h
  split_ifs at h
  all_goals first
    | exact descriptor_ne_nil h
    | obtain rfl := Option.some.inj h
      exact List.cons_ne_nil _ _

theorem hidReply_ne_nil (h : d.hidReply r = some bytes) : bytes ≠ [] := by
  rintro rfl
  have hhid : udiHidDesc.bytes ≠ [] := by decide
  have hreport : udiHidGenericReportDesc ≠ [] := by decide
  simp only [hidReply, hidDescriptor] at h
  split_ifs at h
  · exact hhid (Option.some.inj h)
  · exact hreport (Option.some.inj h)
  all_goals cases h

/-- A reply is not empty, and not longer than the host asks for. -/
theorem reply_bounds (h : d.reply r = some bytes) :
    bytes ≠ [] ∧ 0 < r.wLength.toNat ∧ bytes.length ≤ r.wLength.toNat := by
  rw [reply] at h
  by_cases hw : r.wLength = 0
  · rw [if_pos hw] at h
    cases h
  rw [if_neg hw] at h
  have hpos : 0 < r.wLength.toNat := Nat.pos_of_ne_zero fun h0 => hw (UInt16.toNat_inj.1 h0)
  obtain ⟨all, hall, rfl⟩ := Option.map_eq_some_iff.1 h
  have hne : all ≠ [] := by
    obtain h | ⟨-, h⟩ := Option.or_eq_some_iff.1 hall
    · split_ifs at h
      exact standardReply_ne_nil h
    · split_ifs at h
      exact hidReply_ne_nil h
  refine ⟨fun h => ?_, hpos, List.length_take_le ..⟩
  obtain h | h := List.take_eq_nil_iff.1 h
  · exact absurd h (Nat.pos_iff_ne_zero.1 hpos)
  · exact hne h

end HidDevice

namespace Usb

variable {s s' : Usb} {d : HidDevice} {stage : Stage}

/-! ## Requests that miss the tables -/

theorem uddEpGetCtrl_eq_none {ep : UInt8} (h : 2 < (ep &&& 0x0F).toNat) :
    uddEpGetCtrl ep = none :=
  Option.not_isSome_iff_eq_none.1 fun hsome => Nat.not_lt.2 (uddEpGetCtrl_isSome.1 hsome) h

theorem uddEpGetJob_eq_none {ep : UInt8} (h : (ep &&& 0x0F).toNat = 0) : uddEpGetJob ep = none :=
  Option.not_isSome_iff_eq_none.1 fun hsome => by
    have := (uddEpGetJob_isSome.1 hsome).1
    omega

theorem uddEpAbort_eq_none {ep : UInt8} (h : (ep &&& 0x0F).toNat = 0 ∨ 2 < (ep &&& 0x0F).toNat) :
    uddEpAbort ep s = none := by
  obtain h | h := h
  · rw [uddEpAbort, uddEpGetJob_eq_none h]
    cases uddEpGetCtrl ep <;> rfl
  · rw [uddEpAbort, uddEpGetCtrl_eq_none h]
    rfl

theorem udcReqstd_missing (hmiss : s.ctrlreq.req.missesTables = true) : udcReqstd s = none := by
  have hdev : usbReqRecipEndpoint ≠ usbReqRecipDevice := by decide
  have hiface : usbReqRecipEndpoint ≠ usbReqRecipInterface := by decide
  have hset : usbReqSetFeature ≠ usbReqClearFeature := by decide
  simp only [UsbSetupReq.missesTables, Bool.and_eq_true, decide_eq_true_eq] at hmiss
  obtain ⟨⟨-, hrec⟩, hmiss⟩ := hmiss
  rw [udcReqstd]
  cases hin : s.ctrlreq.req.isIn with
  | true =>
    simp only [hin, if_true, Bool.and_eq_true, decide_eq_true_eq] at hmiss
    obtain ⟨⟨hreq, hlen⟩, hep⟩ := hmiss
    simp only [if_true, hlen, hrec, hreq, hdev, hiface, if_false, show (2 : UInt16) ≠ 0 by decide,
      udcReqStdEpGetStatus, ne_eq, not_true_eq_false, uddEpIsHalted, uddEpGetCtrl_eq_none hep]
    rfl
  | false =>
    simp only [hin, Bool.false_eq_true, if_false, Bool.and_eq_true, Bool.or_eq_true,
      decide_eq_true_eq] at hmiss ⊢
    obtain ⟨⟨hlen, hvalue⟩, ⟨hreq, hep⟩ | ⟨hreq, hep⟩⟩ := hmiss
    · simp only [hrec, hreq, hdev, hiface, if_true, if_false, udcReqStdEpClearFeature, hlen, hvalue,
        ne_eq, not_true_eq_false, uddEpClearHalt, uddEpGetCtrl_eq_none hep]
      rfl
    · simp only [hrec, hreq, hdev, hiface, hset, if_true, if_false, udcReqStdEpSetFeature, hlen,
        hvalue, ne_eq, not_true_eq_false, uddEpAbort_eq_none hep]
      rfl

/-- The tables have no place for the endpoint of such a request, and it is looked up unchecked. -/
theorem udcProcessSetup_missing (hmiss : s.ctrlreq.req.missesTables = true) :
    udcProcessSetup s = none := by
  have htype : decide (s.ctrlreq.req.type = usbReqTypeStandard) = true ∧
      ¬ (s.ctrlreq.req.isIn = true ∧ s.ctrlreq.req.wLength = 0) := by
    simp only [UsbSetupReq.missesTables, Bool.and_eq_true] at hmiss
    obtain ⟨⟨htype, -⟩, hmiss⟩ := hmiss
    refine ⟨htype, fun h => ?_⟩
    simp [h.1, h.2] at hmiss
  have hnone : udcReqstd { s with ctrlreq := { s.ctrlreq with
      payloadSize := 0, callback := none } } = none := udcReqstd_missing hmiss
  rw [udcProcessSetup, if_neg htype.2, htype.1, orElse, if_pos ⟨rfl, rfl⟩]
  simp only [hnone, Option.bind_eq_bind, Option.bind_none]

/-! ## The last request -/

/-- The endpoint is ready for the next request; an address that was on its way counts. -/
def ended (s : Usb) : Usb :=
  { s with
    address := s.comingAddress
    epCtrl := Function.update (Function.update s.epCtrl 1
      { s.epCtrl 1 with nack0 := true, cnt := 0, trncompl0 := false }) 0
      { s.epCtrl 0 with trncompl0 := false }
    ctrlreq := { s.ctrlreq with callback := none, payloadSize := 0 }
    controlState := .setup }

theorem uddCtrlInit_eq (s : Usb) : uddCtrlInit s = { s.ended with address := s.address } := rfl

theorem init_eq_ended (h : s.ctrlreq.callback ≠ some .validAddress) : uddCtrlInit s = s.ended := by
  rw [uddCtrlInit_eq, ended, comingAddress, if_neg h]

theorem init_endofrequest (s : Usb) : uddCtrlInit (uddCtrlEndofrequest s) = s.ended := by
  rw [uddCtrlEndofrequest]
  match hcallback : s.ctrlreq.callback with
  | some .validAddress =>
    rw [ended, comingAddress, if_pos hcallback]
    rfl
  | some .setfeatureValid => exact init_eq_ended (by rw [hcallback]; nofun)
  | none => exact init_eq_ended (by rw [hcallback]; nofun)

theorem comingAddress_ended (s : Usb) : s.ended.comingAddress = s.comingAddress := by
  have hnone : s.ended.ctrlreq.callback ≠ some .validAddress := nofun
  rw [comingAddress, if_neg hnone]
  rfl

theorem ifacePart_ended (s : Usb) : s.ended.ifacePart = s.ifacePart :=
  ifacePart_congr rfl rfl rfl rfl rfl

/-- What is done about the last request before the next one is decoded. -/
def restart (s : Usb) : Usb :=
  match s.controlState with
  | .setup => s
  | .handshakeWaitInZlp | .handshakeWaitOutZlp => uddCtrlInit (uddCtrlEndofrequest s)
  | .dataOut | .dataIn | .stallReq => uddCtrlInit s

theorem restart_eq (h : s.Ending s.controlState) :
    s.controlState = .setup ∧ s.restart = s ∨ s.restart = s.ended := by
  rw [restart]
  cases hstate : s.controlState <;> rw [hstate] at h
  case setup => exact .inl ⟨rfl, rfl⟩
  case dataOut | dataIn | stallReq => exact .inr (init_eq_ended h)
  all_goals exact .inr (init_endofrequest s)

theorem restart_keeps (s : Usb) : s.restart.tcFifo = s.tcFifo ∧ s.restart.inbox = s.inbox := by
  rw [restart]
  cases s.controlState
  case setup => exact ⟨rfl, rfl⟩
  case handshakeWaitInZlp | handshakeWaitOutZlp =>
    simp only [init_endofrequest]
    exact ⟨rfl, rfl⟩
  case dataOut | dataIn | stallReq =>
    simp only [uddCtrlInit_eq]
    exact ⟨rfl, rfl⟩

/-! ## The next request -/

/-- The endpoint has nothing to do but the request that is decoded. -/
structure Listening (s : Usb) : Prop where
  served : s.Served
  quiet : s.Quiet
  out : (s.epCtrl 0).Dropped
  inn : (s.epCtrl 1).Dropped
  flag : s.setupFlag = false
  type_eq : (s.epCtrl 0).type = .disable ∨
    (s.epCtrl 0).type = .control ∧ (s.epCtrl 0).size = 8 ∧
      (s.epCtrl 0).dataptr = ⟨.ctrlBuffer, 0⟩ ∧ (s.epCtrl 1).type = .control
  cnt_le : (s.epCtrl 0).cnt ≤ 8
  nbTrans_le : s.payloadNbTrans ≤ 64

/-- A step of the interface, or of a decoder. -/
theorem Listening.congr (h : s.Listening) (served : s'.Served) (quiet : s'.Quiet)
    (hpart : s'.controlPart = s.controlPart) : s'.Listening := by
  have hout : s'.epCtrl 0 = s.epCtrl 0 := congrArg ControlPart.out hpart
  have hinn : s'.epCtrl 1 = s.epCtrl 1 := congrArg ControlPart.inn hpart
  have hflag : s'.setupFlag = s.setupFlag := congrArg ControlPart.setupFlag hpart
  have hnb : s'.payloadNbTrans = s.payloadNbTrans := congrArg ControlPart.payloadNbTrans hpart
  obtain ⟨-, -, hout', hinn', hflag', htype, hcnt, hle⟩ := h
  exact ⟨served, quiet, hout ▸ hout', hinn ▸ hinn', hflag.trans hflag', by rwa [hout, hinn],
    hout ▸ hcnt, hnb ▸ hle⟩

theorem Quiet.trncompl0 (h : s.Quiet) (hout : (s.epCtrl 0).trncompl0 = false)
    (hinn : (s.epCtrl 1).trncompl0 = false) (i : Fin 6) : (s.epCtrl i).trncompl0 = false :=
  match i with
  | 0 => hout
  | 1 => hinn
  | 2 => h 0
  | 3 => h 1
  | 4 => h 2
  | 5 => h 3

theorem Quiet.congr (h : s.Quiet) (hiface : s'.ifacePart = s.ifacePart) : s'.Quiet := fun j => by
  rw [epCtrl_of_ifacePart hiface]
  exact h j

/-- What the endpoint is set up for once the request is decoded. -/
theorem Listening.valid (h : s.Listening) (hiface : s'.ifacePart = s.ifacePart)
    (haddress : s'.comingAddress = s.comingAddress) (hout : (s'.epCtrl 0).trncompl0 = false)
    (hinn : (s'.epCtrl 1).trncompl0 = false) (hcontrol : s'.Control stage) :
    s'.Valid (s.device stage) where
  served := h.served.congr hiface
  noted i hi := nomatch ((h.quiet.congr hiface).trncompl0 hout hinn i).symm.trans hi
  owned _ j hj := by
    rw [epCtrl_of_ifacePart hiface, h.quiet j] at hj
    cases hj
  control := hcontrol
  device_eq := device_congr hiface haddress

theorem Valid.quiet (h : s.Valid d) (hfifo : s.tcFifo = []) : s.Quiet := fun j =>
  Bool.eq_false_iff.2 fun hj => by
    have hmem := h.noted _ hj
    rw [hfifo] at hmem
    exact nomatch hmem

/-- Nothing has come of the request. -/
theorem Listening.setup_valid (h : s.Listening) (hstate : s.controlState = .setup)
    (hcall : s.ctrlreq.callback = none) (hsize : s.ctrlreq.payloadSize = 0) :
    s.Valid (s.device stage) := by
  refine h.valid rfl rfl h.out.trncompl0 h.inn.trncompl0
    ⟨h.type_eq, h.cnt_le, h.nbTrans_le, ?_, fun hflag => absurd hflag (ne_of_eq_of_ne h.flag nofun),
      fun _ => ?_⟩
  · rw [hstate]
    exact ⟨hcall, hsize⟩
  · rw [hstate]
    exact ⟨h.inn.not_active, h.out.taken, fun ha => absurd ha h.out.not_active⟩

/-- A request is decoded when nothing else is left to do. -/
theorem Valid.restart (h : s.Valid d) (hfifo : s.tcFifo = []) (hflag : s.setupFlag = true) :
    let s' := { s with setupFlag := false }.restart
    s'.Listening ∧ s'.device d.stage = d ∧ s'.ctrlreq.callback = none ∧
      s'.ctrlreq.payloadSize = 0 ∧ s'.controlState = .setup ∧ s'.epCtrl 0 = s.epCtrl 0 ∧
      s'.ctrlBuffer = s.ctrlBuffer := by
  intro s'
  obtain ⟨hout, hinn, -⟩ := h.control.asks hflag
  obtain ⟨htype, hcnt, hle, hending, -, -⟩ := h.control
  let s₀ : Usb := { s with setupFlag := false }
  have hending₀ : s₀.Ending s₀.controlState := by
    show s₀.Ending s.controlState
    cases hs : s.controlState <;> rw [hs] at hending <;> exact hending
  obtain ⟨hstate, heq⟩ | heq := restart_eq hending₀
  · obtain ⟨hcall, hsize⟩ : s₀.Ending .setup := hstate ▸ hending₀
    rw [show s' = s₀ from heq]
    exact ⟨⟨h.served.congr rfl, h.quiet hfifo, hout, hinn, rfl, htype, hcnt, hle⟩, h.device_eq,
      hcall, hsize, hstate, rfl, rfl⟩
  · have hiface := ifacePart_ended s₀
    have hsame : ({ s.epCtrl 0 with trncompl0 := false } : EpCtrl) = s.epCtrl 0 := by
      rw [← hout.trncompl0]
    have hout' : s₀.ended.epCtrl 0 = s.epCtrl 0 := hsame
    rw [show s' = s₀.ended from heq]
    refine ⟨⟨h.served.congr hiface, fun j => ?_, hout' ▸ hout, ⟨hinn.stall, rfl, rfl⟩, rfl,
      by rwa [hout'], hout' ▸ hcnt, hle⟩, ?_, rfl, rfl, rfl, hout', rfl⟩
    · rw [epCtrl_of_ifacePart hiface]
      exact h.quiet hfifo j
    · exact (device_congr hiface (comingAddress_ended s₀)).trans h.device_eq

/-- What is done with the endpoint once the request is decoded. -/
def answerRequest (r : UsbSetupReq) (p : Usb × Bool) : Usb × List UsbOutput :=
  let s := p.1
  let s' := { s with prevPayloadNbTrans := 0, payloadNbTrans := 0 }
  if p.2 = false then (uddCtrlStallData s, [.decoded r false])
  else if r.isIn then (uddCtrlInSent { s' with controlState := .dataIn }, [.decoded r true])
  else if r.wLength = 0 then (uddCtrlSendZlpIn s, [.decoded r true])
  else (uddControlOutClearNack0 { s' with controlState := .dataOut }, [.decoded r true])

/-- The request has been read from the buffer. -/
def hear (s : Usb) : Usb :=
  { s with ctrlreq := { s.ctrlreq with req := .ofBytes s.ctrlBuffer } }

theorem uddCtrlSetupReceived_eq (s : Usb) :
    s.uddCtrlSetupReceived =
      if (s.restart.epCtrl 0).cnt ≠ usbDeviceEpCtrlSize then some (s.restart, [])
      else (udcProcessSetup s.restart.hear).map (answerRequest s.restart.hear.ctrlreq.req) := by
  rw [uddCtrlSetupReceived]
  by_cases hcnt : (s.restart.epCtrl 0).cnt ≠ usbDeviceEpCtrlSize
  · rw [if_pos hcnt]
    exact if_pos hcnt
  · rw [if_neg hcnt]
    refine (if_neg hcnt).trans ?_
    show (udcProcessSetup s.restart.hear).bind _ = _
    cases udcProcessSetup s.restart.hear with
    | none => rfl
    | some p =>
      obtain ⟨s', ok⟩ := p
      rw [Option.map_some, Option.bind_some, answerRequest]
      cases ok with
      | false => rfl
      | true =>
        by_cases hin : s.restart.hear.ctrlreq.req.isIn
        · rw [if_neg (show ¬ (s', true).2 = false from nofun), if_pos hin]
          exact if_pos hin
        · rw [if_neg (show ¬ (s', true).2 = false from nofun), if_neg hin]
          refine (if_neg hin).trans ?_
          by_cases hw : s.restart.hear.ctrlreq.req.wLength = 0
          · rw [if_pos hw]
            exact if_pos hw
          · rw [if_neg hw]
            exact if_neg hw

/-! ## The reports of the host -/

theorem inbox_uddCtrlInSent (s : Usb) : s.uddCtrlInSent.inbox = s.inbox := by
  by_cases hstate : s.controlState = .handshakeWaitInZlp
  · rw [uddCtrlInSent, if_pos hstate, init_endofrequest]
    rfl
  by_cases hnone : s.ctrlreq.payloadSize - s.payloadNbTrans = 0
  · rw [uddCtrlInSent_none hstate hnone]
    split_ifs <;> rfl
  · rw [uddCtrlInSent_more hstate hnone]
    split_ifs <;> rfl

theorem inbox_uddCtrlStallData (s : Usb) : (uddCtrlStallData s).inbox = s.inbox := rfl

theorem inbox_uddCtrlSendZlpIn (s : Usb) : (uddCtrlSendZlpIn s).inbox = s.inbox := rfl

theorem inbox_uddControlOutClearNack0 (s : Usb) : (uddControlOutClearNack0 s).inbox = s.inbox := rfl

theorem Asked.inbox_eq (h : s.Asked s') : s'.inbox = s.inbox := by
  rw [h.1]
  rfl

/-- While nothing has come in, the reports are a matter of the application. -/
theorem Quiet.inbox_eq (h : s.Quiet) (h' : s'.Quiet) (hpart : s'.controlPart = s.controlPart) :
    s'.inbox = s.inbox := by
  have hready : s'.msgReady = s.msgReady := congrArg ControlPart.msgReady hpart
  have hbuf : s'.hidRevcBuf = s.hidRevcBuf := congrArg ControlPart.hidRevcBuf hpart
  have hdone : (s.epCtrl 4).trncompl0 = false := h 2
  have hdone' : (s'.epCtrl 4).trncompl0 = false := h' 2
  rw [inbox, inbox, hdone, hdone', hready, hbuf, Bool.and_false, Bool.and_false]
  rfl

theorem inbox_hear (s : Usb) : s.hear.inbox = s.inbox := rfl

/-! ## The answer -/

theorem Listening.stallData (h : s.Listening)
    (hcall : s.ctrlreq.callback ≠ some .validAddress) :
    (uddCtrlStallData s).Valid (s.device .idle) := by
  have hout : ¬ ((uddCtrlStallData s).epCtrl 0).Active :=
    EpCtrl.not_active_of_stall rfl h.out.trncompl0
  have hinn : ¬ ((uddCtrlStallData s).epCtrl 1).Active :=
    EpCtrl.not_active_of_stall rfl h.inn.trncompl0
  exact h.valid (ifacePart_congr rfl rfl rfl rfl rfl) rfl h.out.trncompl0 h.inn.trncompl0
    ⟨h.type_eq, h.cnt_le, h.nbTrans_le, hcall,
      fun hflag => absurd hflag (ne_of_eq_of_ne h.flag nofun), fun _ => ⟨hinn, hout⟩⟩

theorem Listening.sendZlpIn (h : s.Listening) : (uddCtrlSendZlpIn s).Valid (s.device .status) :=
  h.valid (ifacePart_congr rfl rfl rfl rfl rfl) rfl h.out.trncompl0 h.inn.trncompl0
    ⟨h.type_eq, h.cnt_le, h.nbTrans_le, trivial,
      fun hflag => absurd hflag (ne_of_eq_of_ne h.flag nofun),
      fun _ => ⟨h.out.taken, fun _ => rfl, fun ha => absurd ha h.out.not_active, rfl⟩⟩

theorem Listening.dataOut (h : s.Listening) (hcall : s.ctrlreq.callback ≠ some .validAddress)
    (hfills : s.Fills) :
    (uddControlOutClearNack0 { s with
      prevPayloadNbTrans := 0, payloadNbTrans := 0, controlState := .dataOut }).Valid
      (s.device .status) :=
  h.valid (ifacePart_congr rfl rfl rfl rfl rfl) rfl h.out.trncompl0 h.inn.trncompl0
    ⟨h.type_eq, h.cnt_le, (by decide : (0 : UInt16) ≤ 64), hcall,
      fun hflag => absurd hflag (ne_of_eq_of_ne h.flag nofun),
      fun _ => ⟨h.inn.not_active, fun hd => absurd hd (ne_of_eq_of_ne h.out.trncompl0 nofun), rfl,
        hfills, rfl⟩⟩

/-! ## Packets of a reply -/

theorem Carries.length_le {bytes : List UInt8} (h : s.Carries bytes) : bytes.length ≤ 64 := by
  have hsize (o : UsbObject) : o.size ≤ 64 := by cases o <;> exact Nat.le_of_ble_eq_true rfl
  have hbound := h.bound
  rw [h.length_eq]
  exact Nat.le_trans (Nat.le_of_add_left_le hbound) (hsize _)

/-- The next packet of a reply is given to the endpoint. -/
theorem uddCtrlInSent_replying {bytes p : List UInt8} {rest : List (List UInt8)}
    (hstate : s.controlState ≠ .handshakeWaitInZlp) (hcarries : s.Carries bytes)
    (hlen : bytes.length ≤ s.ctrlreq.req.wLength.toNat) (hrest : s.RemainsOf bytes (p :: rest))
    (hdone : (s.epCtrl 1).trncompl0 = false) :
    ∃ nb prev short, s.uddCtrlInSent = s.loadPacket nb prev short ∧
      (s.loadPacket nb prev short).Replying (p :: rest) ∧
      (s.payloadNbTrans + nb).toNat = s.payloadNbTrans.toNat + p.length ∧
      s.payloadNbTrans + nb ≤ 64 := by
  obtain ⟨nb, prev, short, hsent, hnb, hrest', hread⟩ :=
    uddCtrlInSent_next hstate hcarries hlen hrest
  have hle := hrest.le
  have hle' : (s.payloadNbTrans + nb).toNat ≤ bytes.length := hrest'.le
  have hlength := hcarries.length_le
  have hnb' := UInt16.le_iff_toNat_le.1 hnb
  refine ⟨nb, prev, short, hsent, ⟨bytes, rest, hcarries.congr rfl rfl, hlen, hrest', ?_⟩, ?_, ?_⟩
  · rw [if_neg (show ¬ ((s.loadPacket nb prev short).epCtrl 1).trncompl0 = true from
      Bool.eq_false_iff.1 hdone)]
    exact ⟨p, rfl, hread, rfl⟩
  · rw [length_of_read hread, UInt16.toNat_add]
    exact Nat.mod_eq_of_lt (by have : (8 : UInt16).toNat = 8 := rfl; omega)
  · exact UInt16.le_iff_toNat_le.2 (Nat.le_trans hle' hlength)

theorem Listening.dataIn (h : s.Listening) {bytes : List UInt8} (hcarries : s.Carries bytes)
    (hne : bytes ≠ []) (hpos : 0 < s.ctrlreq.req.wLength.toNat)
    (hlen : bytes.length ≤ s.ctrlreq.req.wLength.toNat)
    (hcall : s.ctrlreq.callback ≠ some .validAddress) :
    (uddCtrlInSent { s with
      prevPayloadNbTrans := 0, payloadNbTrans := 0, controlState := .dataIn }).Valid
      (s.device (.reply (Transfer.packets 8 s.ctrlreq.req.wLength.toNat bytes) 0)) := by
  let s₁ : Usb := { s with prevPayloadNbTrans := 0, payloadNbTrans := 0, controlState := .dataIn }
  obtain ⟨rest, hpackets⟩ := Transfer.exists_packets_eq_cons (n := 8) (by decide) hpos bytes
  have hremains : s₁.RemainsOf bytes (bytes.take 8 :: rest) :=
    .more (List.length_pos_iff.2 hne) rfl hpackets.symm
  obtain ⟨nb, prev, short, hsent, hreplying, hnb, hle⟩ := uddCtrlInSent_replying (s := s₁) nofun
    (hcarries.congr rfl rfl) hlen hremains h.inn.trncompl0
  have hne' : s₁.payloadNbTrans + nb ≠ 0 := fun h0 => by
    rw [h0, List.length_take] at hnb
    have := List.length_pos_iff.2 hne
    have : s₁.payloadNbTrans.toNat = 0 := rfl
    have : (0 : UInt16).toNat = 0 := rfl
    omega
  rw [hpackets, hsent]
  exact h.valid (ifacePart_congr rfl rfl rfl rfl rfl) rfl h.out.trncompl0 h.inn.trncompl0
    ⟨h.type_eq, h.cnt_le, hle, hcall, fun hflag => absurd hflag (ne_of_eq_of_ne h.flag nofun),
      fun _ => ⟨h.out.not_active, fun hd => absurd hd (ne_of_eq_of_ne h.inn.trncompl0 nofun), hne',
        _, rfl, fun _ => hreplying⟩⟩

/-! ## Decoding -/

theorem Listening.asked (h : s.Listening) (hasked : s.Asked s') : s'.Listening := by
  refine h.congr (hasked.served h.served) ?_ ?_
  · rw [hasked.1]
    exact h.quiet
  · rw [hasked.1]
    rfl

theorem advances_decoded {packet : List UInt8} {r : UsbSetupReq} {p : HidDevice × Bool}
    (hstage : d.stage = .asked packet) (hr : UsbSetupReq.ofPacket packet = some r)
    (hdecode : d.decode r = p) (h : s'.Valid p.1) (hinbox : s'.inbox = s.inbox) :
    Advances s d (some (s', [.decoded r p.2])) := by
  refine advances_of_next ?_ h hinbox
  simp only [HidDevice.next, hstage, hr, hdecode, and_self, if_true]

variable {packet : List UInt8}

/-- A request for data brings the packets of the reply, or a halt. -/
theorem Listening.advances_in (h : s.Listening) (hcall : s.ctrlreq.callback = none)
    (hsize : s.ctrlreq.payloadSize = 0) (hmiss : s.ctrlreq.req.missesTables = false)
    (hin : s.ctrlreq.req.isIn = true) (hpacket : UsbSetupReq.ofPacket packet = some s.ctrlreq.req) :
    Advances s (s.device (.asked packet))
      ((udcProcessSetup s).map (answerRequest s.ctrlreq.req)) := by
  obtain ⟨s', hresult, hasked, hbytes⟩ : s.Replies ((s.device (.asked packet)).reply s.ctrlreq.req)
      (udcProcessSetup s) :=
    udcProcessSetup_replies h.served hin hmiss ⟨h.out.stall, h.inn.stall⟩ hcall hsize
  have hlisten := h.asked hasked
  have hreq : s'.ctrlreq.req = s.ctrlreq.req := by rw [hasked.1]
  have hcall' : s'.ctrlreq.callback ≠ some .validAddress := by
    rw [show s'.ctrlreq.callback = s.ctrlreq.callback by rw [hasked.1], hcall]
    nofun
  have hdevice (stage : Stage) :
      s'.device stage = { s.device (.asked packet) with stage := stage } := hasked.device_eq
  rw [hresult, Option.map_some, answerRequest]
  cases hreply : (s.device (.asked packet)).reply s.ctrlreq.req with
  | none =>
    refine advances_decoded (p := (s'.device .idle, false)) rfl hpacket ?_
      (hlisten.stallData hcall') ((inbox_uddCtrlStallData s').trans hasked.inbox_eq)
    rw [HidDevice.decode, if_pos hin, hreply, hdevice]
  | some bytes =>
    obtain ⟨hne, hpos, hlen⟩ := HidDevice.reply_bounds hreply
    rw [← hreq] at hpos hlen
    have hvalid := hlisten.dataIn (hbytes bytes hreply) hne hpos hlen hcall'
    rw [if_neg nofun, if_pos hin]
    refine advances_decoded (p := (s'.device (.reply _ 0), true)) rfl hpacket ?_ hvalid
      ((inbox_uddCtrlInSent _).trans hasked.inbox_eq)
    rw [HidDevice.decode, if_pos hin, hreply, hdevice, hreq]

/-- Any other request moves the device as the tables say. -/
theorem Listening.advances_out (h : s.Listening) (hcall : s.ctrlreq.callback = none)
    (hsize : s.ctrlreq.payloadSize = 0) (hmiss : s.ctrlreq.req.missesTables = false)
    (hout : s.ctrlreq.req.isIn = false)
    (hpacket : UsbSetupReq.ofPacket packet = some s.ctrlreq.req) :
    Advances s (s.device (.asked packet))
      ((udcProcessSetup s).map (answerRequest s.ctrlreq.req)) := by
  have hdecoding : s.Decoding := ⟨h.served, h.quiet, hcall, hsize, h.out.stall, h.inn.stall⟩
  obtain ⟨s', hresult, hobeys⟩ : s.Accepts (.asked packet)
      ((s.device (.asked packet)).accept s.ctrlreq.req) (udcProcessSetup s) :=
    udcProcessSetup_accepts hdecoding hout hmiss
  have hlisten : s'.Listening := h.congr hobeys.served hobeys.quiet hobeys.controlPart_eq
  have hdevice (stage : Stage) : s'.device stage =
      { ((s.device (.asked packet)).accept s.ctrlreq.req).1 with stage := stage } := by
    rw [← hobeys.device_eq]
    rfl
  have hinbox : s'.inbox = s.inbox := h.quiet.inbox_eq hobeys.quiet hobeys.controlPart_eq
  have hin : ¬ s.ctrlreq.req.isIn = true := Bool.eq_false_iff.1 hout
  rw [hresult, Option.map_some, answerRequest]
  cases hok : ((s.device (.asked packet)).accept s.ctrlreq.req).2 with
  | false =>
    have hcall' : s'.ctrlreq.callback ≠ some .validAddress := by
      rw [hobeys.refused hok, hcall]
      nofun
    refine advances_decoded (p := (s'.device .idle, false)) rfl hpacket ?_
      (hlisten.stallData hcall') ((inbox_uddCtrlStallData s').trans hinbox)
    rw [HidDevice.decode, if_neg hin, hok, hdevice, if_neg nofun]
  | true =>
    have hdecode : (s.device (.asked packet)).decode s.ctrlreq.req = (s'.device .status, true) := by
      rw [HidDevice.decode, if_neg hin, hok, hdevice, if_pos rfl]
    rw [if_neg nofun, if_neg hin]
    by_cases hw : s.ctrlreq.req.wLength = 0
    · rw [if_pos hw]
      exact advances_decoded rfl hpacket hdecode hlisten.sendZlpIn
        ((inbox_uddCtrlSendZlpIn s').trans hinbox)
    · rw [if_neg hw]
      exact advances_decoded rfl hpacket hdecode
        (hlisten.dataOut (fun hc => hw (hobeys.callback hc).1) (hobeys.fills hok))
        ((inbox_uddControlOutClearNack0 _).trans hinbox)

theorem Listening.hear (h : s.Listening) : s.hear.Listening :=
  ⟨h.served.congr rfl, h.quiet, h.out, h.inn, h.flag, h.type_eq, h.cnt_le, h.nbTrans_le⟩

theorem device_hear (hcall : s.ctrlreq.callback = none) : s.hear.device stage = s.device stage := by
  refine device_congr rfl ?_
  have hnone : s.ctrlreq.callback ≠ some .validAddress := by rw [hcall]; nofun
  rw [comingAddress, comingAddress, if_neg hnone]
  exact if_neg hnone

/-- A pending SETUP packet once every note has been read: with a whole request that the tables have
a place for the device moves on, and nothing comes of a packet of another length. -/
theorem setupReceived_advances (h : s.Valid d) (hfifo : s.tcFifo = [])
    (hflag : s.setupFlag = true) :
    if s.missing then uddCtrlSetupReceived { s with setupFlag := false } = none
    else Advances s d (uddCtrlSetupReceived { s with setupFlag := false }) := by
  obtain ⟨hlisten, hdevice, hcall, hsize, hstate, hout, hbuffer⟩ := h.restart hfifo hflag
  obtain ⟨packet, hstage, hpacket⟩ := (h.control.asks hflag).packet
  have hmissing : s.missing = (decide ((s.epCtrl 0).cnt = usbDeviceEpCtrlSize) &&
      (UsbSetupReq.ofBytes s.ctrlBuffer).missesTables) := by
    simp [missing, hfifo, hflag]
  have hinbox : (restart { s with setupFlag := false }).inbox = s.inbox := (restart_keeps _).2
  have hhear := (inbox_hear (restart { s with setupFlag := false })).trans hinbox
  rw [hmissing, uddCtrlSetupReceived_eq, hout]
  by_cases hcnt : (s.epCtrl 0).cnt = usbDeviceEpCtrlSize
  · rw [if_neg (not_not.2 hcnt), decide_eq_true hcnt, Bool.true_and]
    rw [if_pos hcnt] at hpacket
    have hreq : (restart { s with setupFlag := false }).hear.ctrlreq.req = .ofBytes s.ctrlBuffer :=
      congrArg UsbSetupReq.ofBytes hbuffer
    rw [← hreq] at hpacket
    split_ifs with hmiss
    · rw [udcProcessSetup_missing (by rw [hreq]; exact hmiss), Option.map_none]
    · have hmiss' := (congrArg UsbSetupReq.missesTables hreq).trans (Bool.eq_false_iff.2 hmiss)
      rw [← hdevice, ← device_hear hcall, hstage]
      cases hin : (restart { s with setupFlag := false }).hear.ctrlreq.req.isIn with
      | true => exact (hlisten.hear.advances_in hcall hsize hmiss' hin hpacket).of_inbox hhear
      | false => exact (hlisten.hear.advances_out hcall hsize hmiss' hin hpacket).of_inbox hhear
  · rw [if_pos hcnt, decide_eq_false hcnt, Bool.false_and, if_neg Bool.false_ne_true]
    refine advances_silent ?_ hinbox
    rw [← hdevice]
    exact hlisten.setup_valid hstate hcall hsize

end Usb

end PowerMeterDisplay

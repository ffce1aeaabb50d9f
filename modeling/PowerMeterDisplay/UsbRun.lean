import PowerMeterDisplay.UsbDecode

/-!
# The USB stack over whole runs

The interrupts, of which each does what the device does or comes to grief on a stray
(`step_advances`), and what follows for every run: the stack refines the device (`device_of_run`),
the runs that fault are those with a stray (`faults_iff`), and it takes a host that goes too far
(`fault_provoked`).
-/

namespace PowerMeterDisplay

namespace Usb

variable {s s' : Usb} {d : HidDevice} {stage : Stage} {fifo : List (Fin 6)}

/-! ## Packets of the control endpoint -/

/-- A note about the control endpoint has been dealt with. -/
theorem Valid.of_pop (h : s.Valid d) {i : Fin 6} (hi : i = 0 ∨ i = 1) (hfifo : s.tcFifo = i :: fifo)
    (hiface : s'.ifacePart = s.ifacePart) (haddress : s'.comingAddress = s.comingAddress)
    (htail : s'.tcFifo = fifo)
    (h₀ : (s'.epCtrl 0).trncompl0 = true → 0 ≠ i ∧ (s.epCtrl 0).trncompl0 = true)
    (h₁ : (s'.epCtrl 1).trncompl0 = true → 1 ≠ i ∧ (s.epCtrl 1).trncompl0 = true)
    (hcontrol : s'.Control d.stage) : s'.Valid d := by
  refine h.of_control_same hiface haddress (h.noted_tail hfifo htail fun k hk => ?_) hcontrol
  have hctrl (j : Fin 4) (hj : (s'.epCtrl (ctrlOf j)).trncompl0 = true) :
      ctrlOf j ≠ i ∧ (s.epCtrl (ctrlOf j)).trncompl0 = true := by
    rw [epCtrl_of_ifacePart hiface] at hj
    refine ⟨fun heq => ?_, hj⟩
    have hval := congrArg Fin.val heq
    simp only [ctrlOf] at hval
    obtain rfl | rfl := hi
    · exact absurd hval (by simp)
    · exact absurd hval (by simp)
  fin_cases k
  · exact h₀ hk
  · exact h₁ hk
  · exact hctrl 0 hk
  · exact hctrl 1 hk
  · exact hctrl 2 hk
  · exact hctrl 3 hk

/-- Data of the host goes to the buffer for it. -/
theorem write_payload {bytes : List UInt8} (hfills : s.Fills) (hnb : s.payloadNbTrans = 0)
    (hlen : bytes.length ≤ s.ctrlreq.payloadSize.toNat) :
    ∃ v, s.write ⟨s.ctrlreq.payload.object,
        s.ctrlreq.payload.offset + s.payloadNbTrans.toNat⟩ bytes =
      some { s with reportFeature := v } := by
  by_cases hempty : bytes = []
  · exact ⟨s.reportFeature, if_pos hempty⟩
  obtain hzero | ⟨hpayload, hsize⟩ := hfills
  · rw [hzero] at hlen
    exact absurd (List.length_eq_zero_iff.1 (Nat.le_zero.1 hlen)) hempty
  · have hsize' : s.ctrlreq.payloadSize.toNat ≤ 4 := UInt16.le_iff_toNat_le.1 hsize
    obtain ⟨v, hv, -⟩ := overwrite_eq_some s.reportFeature (show 0 + bytes.length ≤ 4 by omega)
    have hplace : (⟨s.ctrlreq.payload.object,
        s.ctrlreq.payload.offset + s.payloadNbTrans.toNat⟩ : UsbPointer) = ⟨.reportFeature, 0⟩ := by
      rw [hpayload, hnb]
      rfl
    refine ⟨v, ?_⟩
    rw [hplace, write, if_neg hempty]
    simp only [hv, Option.map_some]

/-- How many bytes of a packet are stored. -/
def storedBytes (s : Usb) : UInt16 :=
  if s.ctrlreq.payloadSize < s.payloadNbTrans + (s.epCtrl 0).cnt
  then s.ctrlreq.payloadSize - s.payloadNbTrans else (s.epCtrl 0).cnt

/-- The host has sent its data, as far as there is a buffer for it. -/
theorem uddCtrlOutReceived_data (hstate : s.controlState ≠ .handshakeWaitOutZlp)
    (hfills : s.Fills) (hnb : s.payloadNbTrans = 0) :
    ∃ v n, s.uddCtrlOutReceived = some (uddCtrlSendZlpIn { s with
      reportFeature := v, payloadNbTrans := n, ctrlreq := { s.ctrlreq with payloadSize := n } }) ∧
      n ≤ s.ctrlreq.payloadSize ∧ n ≤ 4 := by
  have hle : s.storedBytes ≤ s.ctrlreq.payloadSize := by
    rw [storedBytes, hnb, UInt16.zero_add, UInt16.sub_zero]
    split_ifs with hlt
    · exact UInt16.le_refl _
    · exact UInt16.not_lt.1 hlt
  have hle' : s.storedBytes ≤ 4 := by
    obtain hzero | ⟨-, hsize⟩ := hfills
    · rw [hzero] at hle
      exact UInt16.le_trans hle (by decide)
    · exact UInt16.le_trans hle hsize
  have hbound : s.storedBytes.toNat ≤ 4 := UInt16.le_iff_toNat_le.1 hle'
  have hread := read_eq_some (s := s) (p := ⟨.ctrlBuffer, 0⟩) (n := s.storedBytes.toNat)
    (.inr (show 0 + s.storedBytes.toNat ≤ 8 by omega))
  obtain ⟨v, hv⟩ := write_payload hfills hnb (Nat.le_trans (Nat.le_of_eq (length_of_read hread))
    (UInt16.le_iff_toNat_le.1 hle))
  have hshort : usbDeviceEpCtrlSize ≠ s.storedBytes := fun heq => by
    rw [← heq] at hle'
    exact absurd hle' (by decide)
  refine ⟨v, s.payloadNbTrans + s.storedBytes, ?_, ?_, ?_⟩
  · rw [uddCtrlOutReceived, if_neg hstate]
    show (s.read ⟨.ctrlBuffer, 0⟩ s.storedBytes.toNat).bind _ = _
    rw [hread, Option.bind_some]
    show (s.write _ _).bind _ = _
    rw [hv, Option.bind_some]
    exact if_pos (.inl hshort)
  · rwa [hnb, UInt16.zero_add]
  · rwa [hnb, UInt16.zero_add]

/-- Data of the host when no request is under way: the bytes of the last one are still counted. -/
theorem uddCtrlOutReceived_late (hstate : s.controlState = .setup)
    (hsize : s.ctrlreq.payloadSize = 0) (hnb : s.payloadNbTrans ≠ 0)
    (hle : s.payloadNbTrans ≤ 64) (hcnt : (s.epCtrl 0).cnt ≤ 8) :
    s.uddCtrlOutReceived = none := by
  have hpos : 0 < s.payloadNbTrans.toNat :=
    Nat.pos_of_ne_zero fun h0 => hnb (UInt16.toNat_inj.1 h0)
  have hle' : s.payloadNbTrans.toNat ≤ 64 := UInt16.le_iff_toNat_le.1 hle
  have hcnt' : (s.epCtrl 0).cnt.toNat ≤ 8 := UInt16.le_iff_toNat_le.1 hcnt
  have hlt : s.ctrlreq.payloadSize < s.payloadNbTrans + (s.epCtrl 0).cnt := by
    rw [hsize, UInt16.lt_iff_toNat_lt, UInt16.toNat_add, Nat.mod_eq_of_lt (by omega)]
    exact Nat.lt_of_lt_of_le hpos (Nat.le_add_right ..)
  have hstored : 8 < s.storedBytes.toNat := by
    rw [storedBytes, if_pos hlt, hsize, UInt16.toNat_sub]
    have hzero : (0 : UInt16).toNat = 0 := rfl
    rw [hzero, Nat.add_zero, Nat.mod_eq_of_lt (by omega)]
    omega
  rw [uddCtrlOutReceived, if_neg (by rw [hstate]; nofun)]
  show (s.read ⟨.ctrlBuffer, 0⟩ s.storedBytes.toNat).bind _ = _
  rw [read_eq_none hstored, Option.bind_none]

/-- Data of the host goes to its buffer, and the endpoint waits for the end of the request. -/
theorem dataReceived_advances (h : s.Valid d) (hfifo : s.tcFifo = 0 :: fifo)
    (hdone : (s.epCtrl 0).trncompl0 = true) (hstate : s.controlState ≠ .handshakeWaitOutZlp)
    (hfills : s.Fills) (hnb : s.payloadNbTrans = 0) (htaken : (s.epCtrl 0).Taken)
    (hstage : d.stage = .status) :
    Advances s d ((uddCtrlOutReceived (s.pop 0 fifo)).map fun s => (s, [])) := by
  have hflag := h.control.flag (.inl (.inr hdone))
  obtain ⟨htype, hcnt, -, -, -, -⟩ := h.control
  have hidle : ¬ ((s.pop 0 fifo).epCtrl 0).Active := EpCtrl.not_active (htaken hdone) rfl
  obtain ⟨v, n, hreceived, hn, hn4⟩ :=
    uddCtrlOutReceived_data (s := s.pop 0 fifo) hstate hfills hnb
  rw [hreceived, Option.map_some]
  exact advances_silent (h.of_pop (.inl rfl) hfifo
    (ifacePart_congr rfl rfl rfl rfl rfl) rfl rfl
    (fun hd => absurd hd Bool.false_ne_true) (fun hd => ⟨by decide, hd⟩)
    ⟨htype, hcnt, UInt16.le_trans hn4 (by decide), trivial, fun hf => absurd hf hflag,
      fun _ => ⟨fun hd => absurd hd Bool.false_ne_true, fun _ => rfl,
        fun ha => absurd ha hidle, hstage⟩⟩)

/-- The packet that ends a reply; the host may send another. -/
theorem replyEnded_advances (h : s.Valid d) (hfifo : s.tcFifo = 0 :: fifo)
    (hdone : (s.epCtrl 0).trncompl0 = true) (hstate : s.controlState = .handshakeWaitOutZlp) :
    Advances s d ((uddCtrlOutReceived (s.pop 0 fifo)).map fun s => (s, [])) := by
  have hflag := h.control.flag (.inl (.inr hdone))
  have hphase := h.control.phase hflag
  obtain ⟨htype, hcnt, hle, -, -, -⟩ := h.control
  rw [hstate] at hphase
  obtain ⟨htaken, hne, packets, acks, hstage, hacks, -⟩ := hphase
  have hended : uddCtrlOutReceived (s.pop 0 fifo) = some (s.pop 0 fifo).ended := by
    rw [uddCtrlOutReceived, if_pos (show (s.pop 0 fifo).controlState = _ from hstate),
      init_endofrequest]
    rfl
  rw [hended, Option.map_some]
  exact advances_silent (h.of_pop (.inl rfl) hfifo
    ((ifacePart_ended _).trans (ifacePart_congr rfl rfl rfl rfl rfl)) (comingAddress_ended _) rfl
    (fun hd => absurd hd Bool.false_ne_true) (fun hd => absurd hd Bool.false_ne_true)
    ⟨htype, hcnt, hle, ⟨rfl, rfl⟩, fun hf => absurd hf hflag,
      fun _ => ⟨EpCtrl.not_active rfl rfl, fun hd => absurd hd Bool.false_ne_true,
        fun _ => .inr ⟨hne, packets, acks, hstage, hacks hdone,
          fun hd => absurd hd Bool.false_ne_true⟩⟩⟩)

/-- A packet of the host on the control endpoint: it ends a reply, or is data. -/
theorem outReceived_advances (h : s.Valid d) (hfifo : s.tcFifo = 0 :: fifo)
    (hdone : (s.epCtrl 0).trncompl0 = true) :
    if s.late then uddCtrlOutReceived (s.pop 0 fifo) = none
    else Advances s d ((uddCtrlOutReceived (s.pop 0 fifo)).map fun s => (s, [])) := by
  have hactive : (s.epCtrl 0).Active := .inr hdone
  have hlate : s.late = (decide (s.controlState = .setup) && decide (s.payloadNbTrans ≠ 0)) := by
    simp [late, hfifo, hdone]
  have hphase := h.control.phase (h.control.flag (.inl hactive))
  have hending := h.control.ending
  have hdata := dataReceived_advances h hfifo hdone
  cases hstate : s.controlState <;> rw [hstate] at hphase hending hlate hdata
  case dataIn => exact absurd hactive hphase.1
  case stallReq => exact absurd hactive hphase.2
  case handshakeWaitOutZlp =>
    rw [hlate]
    exact replyEnded_advances h hfifo hdone hstate
  case setup =>
    obtain ⟨-, htaken, hidle⟩ := hphase
    obtain ⟨hnb, hstage⟩ | ⟨hne, -⟩ := hidle hactive
    · rw [hlate, decide_eq_false (not_not.2 hnb)]
      exact hdata (by decide) (.inl hending.2) hnb htaken hstage
    · rw [hlate, decide_eq_true hne]
      exact (if_pos rfl).mpr
        (uddCtrlOutReceived_late hstate hending.2 hne h.control.nbTrans_le h.control.cnt_le)
  case dataOut =>
    obtain ⟨-, htaken, hnb, hfills, hstage⟩ := hphase
    rw [hlate]
    exact hdata (by decide) hfills hnb htaken hstage
  case handshakeWaitInZlp =>
    obtain ⟨htaken, -, hout, hstage⟩ := hphase
    obtain ⟨hnb, hfills⟩ := hout hactive
    rw [hlate]
    exact hdata (by decide) hfills hnb htaken hstage

/-- The endpoint gives a reply, which the host may already end. -/
def Giving (s : Usb) (acks : ℕ) : Prop :=
  s.controlState = .dataIn ∧ ¬ (s.epCtrl 0).Active ∧ acks = 0 ∨
    s.controlState = .handshakeWaitOutZlp ∧ ((s.epCtrl 0).trncompl0 = true → 1 ≤ acks)

theorem Giving.one_le {acks : ℕ} (hs : s.Giving acks) (hdone : (s.epCtrl 0).trncompl0 = true) :
    1 ≤ acks := by
  obtain ⟨-, hidle, -⟩ | ⟨-, hacks⟩ := hs
  · exact absurd (.inr hdone) hidle
  · exact hacks hdone

theorem Giving.ne_waitIn {acks : ℕ} (hs : s.Giving acks) :
    s.controlState ≠ .handshakeWaitInZlp := by
  obtain ⟨hin, -⟩ | ⟨hout, -⟩ := hs
  · rw [hin]
    decide
  · rw [hout]
    decide

theorem Giving.ending_iff {acks : ℕ} (hs : s.Giving acks) :
    s.Ending s.controlState ↔ s.ctrlreq.callback ≠ some .validAddress := by
  obtain ⟨hin, -⟩ | ⟨hout, -⟩ := hs
  · rw [hin]
    exact Iff.rfl
  · rw [hout]
    exact Iff.rfl

theorem Giving.phase {acks : ℕ} (hs : s.Giving acks) (htaken : (s.epCtrl 1).Taken)
    (hne : s.payloadNbTrans ≠ 0) {packets : List (List UInt8)}
    (hstage : stage = .reply packets acks) (hreplying : s.Replying packets) :
    s.Phase stage s.controlState := by
  obtain ⟨hin, hidle, rfl⟩ | ⟨hout, hacks⟩ := hs
  · rw [hin]
    exact ⟨hidle, htaken, hne, packets, hstage, fun _ => hreplying⟩
  · rw [hout]
    exact ⟨htaken, hne, packets, acks, hstage, hacks, fun _ => hreplying⟩

/-- The host has taken a packet of a reply: the next one is given to the endpoint, or the host is to
end the request. -/
theorem replySent_advances (h : s.Valid d) (hfifo : s.tcFifo = 1 :: fifo)
    (hdone : (s.epCtrl 1).trncompl0 = true) {acks : ℕ} (hgiving : s.Giving acks)
    (htaken : (s.epCtrl 1).Taken) (hne : s.payloadNbTrans ≠ 0) {packets : List (List UInt8)}
    (hstage : d.stage = .reply packets acks) (hreplying : s.Replying packets) :
    Advances s d (some (uddCtrlInSent (s.pop 1 fifo), [])) := by
  have hflag := h.control.flag (.inr (.inr hdone))
  obtain ⟨htype, hcnt, hle, hending, -, -⟩ := h.control
  obtain ⟨bytes, rest, hcarries, hlen, hrest, hpackets⟩ := hreplying
  rw [if_pos hdone] at hpackets
  subst hpackets
  have hcarries' : (s.pop 1 fifo).Carries bytes := hcarries.congr rfl rfl
  have hstate : (s.pop 1 fifo).controlState ≠ .handshakeWaitInZlp := hgiving.ne_waitIn
  cases packets with
  | nil =>
    obtain ⟨prev, hend⟩ := uddCtrlInSent_end hstate hcarries' hlen hrest
    have hidle : ¬ ((s.pop 1 fifo).epCtrl 1).Active := EpCtrl.not_active (htaken hdone) rfl
    rw [hend]
    exact advances_silent (h.of_pop (.inr rfl) hfifo
      (ifacePart_congr rfl rfl rfl rfl rfl) rfl rfl (fun hd => ⟨by decide, hd⟩)
      (fun hd => absurd hd Bool.false_ne_true)
      ⟨htype, hcnt, hle, hgiving.ending_iff.1 hending, fun hf => absurd hf hflag,
        fun _ => ⟨fun hd => absurd hd Bool.false_ne_true, hne, [], acks, hstage, hgiving.one_le,
          fun ha => absurd ha hidle⟩⟩)
  | cons p rest =>
    obtain ⟨nb, prev, short, hsent, hreplying, hnb, hle'⟩ :=
      uddCtrlInSent_replying hstate hcarries' hlen hrest rfl
    have hne' : s.payloadNbTrans + nb ≠ 0 := fun h0 => by
      have hsum : (s.payloadNbTrans + nb).toNat = s.payloadNbTrans.toNat + p.length := hnb
      rw [h0] at hsum
      exact hne (UInt16.toNat_inj.1 (Nat.eq_zero_of_add_eq_zero_right hsum.symm))
    have hgiving' : (loadPacket nb prev short (s.pop 1 fifo)).Giving acks := hgiving
    rw [hsent]
    exact advances_silent (h.of_pop (.inr rfl) hfifo
      (ifacePart_congr rfl rfl rfl rfl rfl) rfl rfl (fun hd => ⟨by decide, hd⟩)
      (fun hd => absurd hd Bool.false_ne_true)
      ⟨htype, hcnt, hle', hgiving'.ending_iff.2 (hgiving.ending_iff.1 hending),
        fun hf => absurd hf hflag, fun _ => hgiving'.phase
          (fun hd => absurd hd Bool.false_ne_true) hne' hstage hreplying⟩)

theorem inSent_advances (h : s.Valid d) (hfifo : s.tcFifo = 1 :: fifo)
    (hdone : (s.epCtrl 1).trncompl0 = true) :
    Advances s d (some (uddCtrlInSent (s.pop 1 fifo), [])) := by
  have hactive : (s.epCtrl 1).Active := .inr hdone
  have hflag := h.control.flag (.inr hactive)
  have hphase := h.control.phase hflag
  cases hstate : s.controlState <;> rw [hstate] at hphase
  case setup | dataOut | stallReq => exact absurd hactive hphase.1
  case dataIn =>
    obtain ⟨hout, htaken, hne, packets, hstage, hreply⟩ := hphase
    exact replySent_advances h hfifo hdone (.inl ⟨hstate, hout, rfl⟩) htaken hne hstage
      (hreply hactive)
  case handshakeWaitOutZlp =>
    obtain ⟨htaken, hne, packets, acks, hstage, hacks, hreply⟩ := hphase
    exact replySent_advances h hfifo hdone (.inr ⟨hstate, hacks⟩) htaken hne hstage (hreply hactive)
  case handshakeWaitInZlp =>
    obtain ⟨htaken, -, hout, hstage⟩ := hphase
    have hended : uddCtrlInSent (s.pop 1 fifo) = (s.pop 1 fifo).ended := by
      rw [uddCtrlInSent, if_pos (show (s.pop 1 fifo).controlState = _ from hstate),
        init_endofrequest]
    have hready (ha : ((s.pop 1 fifo).ended.epCtrl 0).Active) : (s.epCtrl 0).Active := by
      obtain hready | hdone := ha
      · exact .inl hready
      · cases hdone
    obtain ⟨htype, hcnt, hle, -, -, -⟩ := h.control
    rw [hended]
    exact advances_silent (h.of_pop (.inr rfl) hfifo
      ((ifacePart_ended _).trans (ifacePart_congr rfl rfl rfl rfl rfl)) (comingAddress_ended _) rfl
      (fun hd => absurd hd Bool.false_ne_true) (fun hd => absurd hd Bool.false_ne_true)
      ⟨htype, hcnt, hle, ⟨rfl, rfl⟩, fun hf => absurd hf hflag,
        fun _ => ⟨EpCtrl.not_active rfl rfl, fun hd => absurd hd Bool.false_ne_true,
          fun ha => .inl ⟨(hout (hready ha)).1, hstage⟩⟩⟩)

/-! ## Interrupts -/

/-- With no note left no endpoint has one. -/
theorem Valid.no_note (h : s.Valid d) (hfifo : s.tcFifo = []) (i : Fin 6) :
    (s.epCtrl i).trncompl0 = false :=
  Bool.eq_false_iff.2 fun hi => by
    have hmem := h.noted i hi
    rw [hfifo] at hmem
    cases hmem

/-- A step of the control endpoint when no note is left. -/
theorem Valid.of_quiet (h : s.Valid d) (hfifo : s.tcFifo = []) (hiface : s'.ifacePart = s.ifacePart)
    (haddress : s'.comingAddress = s.comingAddress) (hout : (s'.epCtrl 0).trncompl0 = false)
    (hinn : (s'.epCtrl 1).trncompl0 = false) (hcontrol : s'.Control d.stage) : s'.Valid d :=
  h.of_control_same hiface haddress
    (fun i hi => nomatch (((h.quiet hfifo).congr hiface).trncompl0 hout hinn i).symm.trans hi)
    hcontrol

theorem tcSetup_advances (h : s.Valid d) (hfifo : s.tcFifo = []) {otherwise : Usb}
    (hother : s.setupFlag ≠ true → otherwise.Valid d) (hinbox : otherwise.inbox = s.inbox) :
    if s.missing then uddCtrlInterruptTcSetup s otherwise = none
    else Advances s d (uddCtrlInterruptTcSetup s otherwise) := by
  rw [uddCtrlInterruptTcSetup]
  by_cases hflag : s.setupFlag = true
  · rw [if_pos hflag]
    exact setupReceived_advances h hfifo hflag
  · have hmissing : s.missing = false := by simp [missing, hflag]
    rw [if_neg hflag, hmissing, if_neg Bool.false_ne_true]
    exact advances_silent (hother hflag) hinbox

/-- A note of the hardware about a packet that is still to be dealt with. -/
theorem trncomplInterrupt_cons {i : Fin 6} (hfifo : s.tcFifo = i :: fifo)
    (hdone : (s.epCtrl i).trncompl0 = true) :
    s.trncomplInterrupt =
      if i = 0 then (uddCtrlOutReceived (s.pop i fifo)).map fun s => (s, [])
      else if i = 1 then some (uddCtrlInSent (s.pop i fifo), [])
      else (uddEpTransComplet transDepth (epAddress i) (s.pop i fifo)).map fun s => (s, []) := by
  rw [trncomplInterrupt, hfifo]
  exact if_neg fun hd => nomatch hd.symm.trans hdone

/-- A note of the hardware about a packet that has been dropped. -/
theorem Valid.skip (h : s.Valid d) {i : Fin 6} (hfifo : s.tcFifo = i :: fifo)
    (hdone : (s.epCtrl i).trncompl0 = false) :
    s.trncomplInterrupt = some ({ s with tcFifo := fifo }, []) ∧
      ({ s with tcFifo := fifo } : Usb).Valid d := by
  constructor
  · rw [trncomplInterrupt, hfifo]
    exact if_pos hdone
  · refine h.of_control_same rfl rfl (h.noted_tail hfifo rfl fun k hk => ⟨?_, hk⟩)
      (h.control.congr rfl rfl rfl rfl rfl)
    rintro rfl
    exact nomatch hdone.symm.trans hk

theorem trncompl_advances (h : s.Valid d) :
    if s.missing || s.late then s.trncomplInterrupt = none
    else Advances s d s.trncomplInterrupt := by
  cases hfifo : s.tcFifo with
  | nil =>
    have hlate : s.late = false := by simp [late, hfifo]
    rw [trncomplInterrupt, hfifo, hlate, Bool.or_false]
    exact tcSetup_advances h hfifo (fun _ => h) rfl
  | cons i fifo =>
    have hmissing : s.missing = false := by simp [missing, hfifo]
    rw [hmissing, Bool.false_or]
    cases hdone : (s.epCtrl i).trncompl0 with
    | false =>
      have hlate : s.late = false := by
        rcases eq_or_ne i 0 with rfl | hi
        · simp [late, hdone]
        · simp [late, hfifo, hi]
      obtain ⟨hread, hvalid⟩ := h.skip hfifo hdone
      rw [hlate, if_neg Bool.false_ne_true, hread]
      exact advances_silent hvalid
    | true =>
      rw [trncomplInterrupt_cons hfifo hdone]
      rcases eq_or_ne i 0 with rfl | hi₀
      · have hout := outReceived_advances h hfifo hdone
        rw [if_pos rfl]
        split_ifs at hout ⊢ with hlate
        · rw [hout, Option.map_none]
        · exact hout
      · have hlate : s.late = false := by simp [late, hfifo, hi₀]
        rw [hlate, if_neg Bool.false_ne_true, if_neg hi₀]
        rcases eq_or_ne i 1 with rfl | hi₁
        · rw [if_pos rfl]
          exact inSent_advances h hfifo hdone
        · rw [if_neg hi₁]
          obtain ⟨s', hend, hvalid, -, -, -, -, hpass⟩ := report_done h hfifo hdone hi₀ hi₁
          exact ⟨s', d, [], by rw [hend, Option.map_some], rfl, hvalid, hpass⟩

/-- The host wants to send no more data. -/
theorem underflow_advances (h : s.Valid d) :
    if s.missing then s.uddCtrlUnderflow = none else Advances s d s.uddCtrlUnderflow := by
  rw [uddCtrlUnderflow]
  by_cases hfifo : s.tcFifo = []
  swap
  · have hmissing : s.missing = false := by simp [missing, hfifo]
    rw [hmissing, if_neg Bool.false_ne_true, if_pos hfifo]
    exact advances_silent h
  rw [if_neg (not_not.2 hfifo)]
  refine tcSetup_advances h hfifo (fun hflag => ?_) (by split <;> rfl)
  have hphase := h.control.phase hflag
  obtain ⟨htype, hcnt, hle, hending, -, -⟩ := h.control
  have hout := h.no_note hfifo 0
  have hinn := h.no_note hfifo 1
  cases hstate : s.controlState <;> rw [hstate] at hphase hending
  case dataOut =>
    obtain ⟨-, htaken, hnb, hfills, hstage⟩ := hphase
    exact h.of_quiet hfifo (ifacePart_congr rfl rfl rfl rfl rfl) rfl hout hinn
      ⟨htype, hcnt, hle, trivial, fun hf => absurd hf hflag,
        fun _ => ⟨htaken, fun _ => rfl, fun _ => ⟨hnb, hfills⟩, hstage⟩⟩
  case handshakeWaitOutZlp =>
    obtain ⟨htaken, hne, packets, acks, hstage, hacks, -⟩ := hphase
    have hstate' : (uddControlEnableStall s).controlState = .handshakeWaitOutZlp := hstate
    have hstall : (uddControlEnableStall s).Phase d.stage .handshakeWaitOutZlp :=
      ⟨htaken, hne, packets, acks, hstage, hacks,
        fun ha => absurd ha (EpCtrl.not_active_of_stall rfl hinn)⟩
    exact h.of_quiet hfifo (ifacePart_congr rfl rfl rfl rfl rfl) rfl hout hinn
      ⟨htype, hcnt, hle, by rw [hstate']; exact hending, fun hf => absurd hf hflag,
        fun _ => by rw [hstate']; exact hstall⟩
  all_goals exact h

/-- The host wants to take no more data. -/
theorem overflow_advances (h : s.Valid d) :
    if s.missing then s.uddCtrlOverflow = none else Advances s d s.uddCtrlOverflow := by
  rw [uddCtrlOverflow]
  by_cases hfifo : s.tcFifo = []
  swap
  · have hmissing : s.missing = false := by simp [missing, hfifo]
    rw [hmissing, if_neg Bool.false_ne_true, if_pos hfifo]
    exact advances_silent h
  rw [if_neg (not_not.2 hfifo)]
  refine tcSetup_advances h hfifo (fun hflag => ?_) (by split <;> rfl)
  have hphase := h.control.phase hflag
  obtain ⟨htype, hcnt, hle, hending, -, -⟩ := h.control
  have hout := h.no_note hfifo 0
  have hinn := h.no_note hfifo 1
  cases hstate : s.controlState <;> rw [hstate] at hphase hending
  case dataIn =>
    obtain ⟨-, htaken, hne, packets, hstage, hreply⟩ := hphase
    exact h.of_quiet hfifo (ifacePart_congr rfl rfl rfl rfl rfl) rfl hout hinn
      ⟨htype, hcnt, hle, hending, fun hf => absurd hf hflag,
        fun _ => ⟨htaken, hne, packets, 0, hstage,
          fun hd => absurd hd (ne_of_eq_of_ne hout Bool.false_ne_true),
          fun ha => (hreply ha).congr rfl⟩⟩
  case handshakeWaitInZlp =>
    obtain ⟨htaken, hcnt', -, hstage⟩ := hphase
    have hstate' : (uddControlEnableStall s).controlState = .handshakeWaitInZlp := hstate
    have hstall : (uddControlEnableStall s).Phase d.stage .handshakeWaitInZlp :=
      ⟨htaken, fun ha => absurd ha (EpCtrl.not_active_of_stall rfl hinn),
        fun ha => absurd ha (EpCtrl.not_active_of_stall rfl hout), hstage⟩
    exact h.of_quiet hfifo (ifacePart_congr rfl rfl rfl rfl rfl) rfl hout hinn
      ⟨htype, hcnt, hle, by rw [hstate']; trivial, fun hf => absurd hf hflag,
        fun _ => by rw [hstate']; exact hstall⟩
  all_goals exact h

/-! ## A reset of the bus -/

/-- The control endpoint after a reset. -/
def freshControl (s : Usb) : Usb :=
  { s with
    address := 0
    epCtrl := Function.update (Function.update s.epCtrl 1 { s.epCtrl 1 with
      type := .control, size := 8, stall := false, nack0 := true, trncompl0 := false, cnt := 0 }) 0
      { s.epCtrl 0 with
        type := .control, size := 8, stall := false, nack0 := true, trncompl0 := false,
        dataptr := ⟨.ctrlBuffer, 0⟩ }
    ctrlreq := { s.ctrlreq with callback := none, payloadSize := 0 }
    controlState := .setup }

/-- The jobs that a reset ends. -/
def aborted (s : Usb) : Usb := (s.abortEntry 2 0).abortEntry 3 1

theorem Settled.aborted (h : s.Settled) : s.aborted.Settled := (h.abortEntry 0).abortEntry 1

/-- An entry of the control endpoint that has been initialised. -/
def controlEntry (c : EpCtrl) : EpCtrl :=
  { c with type := .control, size := 8, stall := false, nack0 := true, trncompl0 := false }

theorem uddEpInit_out (s : Usb) :
    uddEpInit 0x00 0 usbDeviceEpCtrlSize s = some (s.setCtrl 0 (controlEntry (s.epCtrl 0))) := rfl

theorem uddEpInit_in (s : Usb) :
    uddEpInit 0x80 0 usbDeviceEpCtrlSize s = some (s.setCtrl 1 (controlEntry (s.epCtrl 1))) := rfl

theorem resetInterrupt_eq (h : s.Settled) :
    s.resetInterrupt = some s.aborted.unconfigured.freshControl := by
  have hreset := udcReset_eq (s := s.aborted) h.aborted.conf
  have hout (t : Usb) : uddEpAbort 0x01 t = some (t.abortEntry (ctrlOf 0) 0) := uddEpAbort_eq rfl
  have hin (t : Usb) : uddEpAbort 0x81 t = some (t.abortEntry (ctrlOf 1) 1) := uddEpAbort_eq rfl
  have hfold : ((s.abortEntry (ctrlOf 0) 0).abortEntry (ctrlOf 1) 1) = s.aborted := rfl
  rw [resetInterrupt, hout, Option.bind_eq_bind, Option.bind_some, hin, Option.bind_some, hfold,
    hreset, Option.bind_some]
  generalize s.aborted.unconfigured = t
  simp only [uddEpInit_out, uddEpInit_in, Option.bind_some, Option.pure_def, uddCtrlInit,
    freshControl, setCtrl]
  refine congrArg (fun f => some { freshControl t with epCtrl := f }) (funext fun k => ?_)
  fin_cases k <;> rfl

theorem device_freshControl (t : Usb) :
    t.freshControl.device stage = { t.device stage with address := 0 } := by
  have haddress : t.freshControl.comingAddress = 0 := if_neg (Option.some_ne_none _).symm
  rw [device, haddress]
  refine congrArg (fun halted => { t.device stage with address := 0, halted := halted })
    (funext fun j => ?_)
  fin_cases j <;> rfl

theorem device_aborted (s : Usb) :
    s.aborted.device stage = { s.device stage with report := none } := by
  refine (device_abortEntry (s := s.abortEntry 2 0) 1).trans ?_
  rw [show (s.abortEntry 2 0).device stage = _ from device_abortEntry 0]
  rfl

/-- A device that is not configured has no report under way. -/
theorem Valid.report_eq_none (h : s.Valid d) (hconf : d.configuration = 0) : d.report = none := by
  have hnum : s.udcNumConfiguration = 0 :=
    (congrArg HidDevice.configuration h.device_eq).trans hconf
  have hoff : s.mainBGenericEnable ≠ true := by
    obtain h0 | h1 := h.served.1.configured
    · rw [h0.2]
      nofun
    · exact absurd (h1.1.symm.trans hnum) (by decide)
  rw [← h.device_eq]
  exact if_neg fun hready => hoff (h.on_of_ready (j := 1) hready)

theorem aborted_keeps (s : Usb) :
    s.aborted.controlPart = s.controlPart ∧
      (∀ i, (s.aborted.epCtrl i).trncompl0 = (s.epCtrl i).trncompl0) ∧
      s.aborted.udcStringDesc = s.udcStringDesc ∧ s.aborted.ctrlBuffer = s.ctrlBuffer := by
  refine ⟨(controlPart_abortEntry (s := s.abortEntry 2 0) 1).trans
      (controlPart_abortEntry (s := s) 0),
    fun i => (trncompl0_abortEntry (s := s.abortEntry 2 0) 1 i).trans
      (trncompl0_abortEntry (s := s) 0 i), ?_⟩
  rw [aborted, abortEntry_eq, abortEntry_eq]
  exact ⟨rfl, rfl⟩

theorem cleared_keeps (s : Usb) :
    s.aborted.unconfigured.controlPart = s.controlPart ∧
      (∀ i, (s.aborted.unconfigured.epCtrl i).trncompl0 = (s.epCtrl i).trncompl0) ∧
      s.aborted.unconfigured.udcStringDesc = s.udcStringDesc ∧
      s.aborted.unconfigured.ctrlBuffer = s.ctrlBuffer := by
  obtain ⟨hpart₁, hnote₁, hstring₁, hbuffer₁⟩ := aborted_keeps s
  obtain ⟨hpart₂, hnote₂, hstring₂, hbuffer₂⟩ := unconfigured_keeps s.aborted
  exact ⟨hpart₂.trans hpart₁, fun i => (hnote₂ i).trans (hnote₁ i), hstring₂.trans hstring₁,
    hbuffer₂.trans hbuffer₁⟩

theorem Valid.device_cleared (h : s.Valid d) (stage : Stage) :
    s.aborted.unconfigured.device stage = { d.unconfigure with stage := stage } := by
  have hd : s.device stage = { d with stage := stage } :=
    congrArg (fun d => { d with stage := stage }) h.device_eq
  rw [device_unconfigured, device_aborted, hd, HidDevice.unconfigure, HidDevice.unconfigure]
  by_cases hconf : d.configuration = 0
  · rw [if_pos hconf, if_pos hconf, ← h.report_eq_none hconf]
  · rw [if_neg hconf, if_neg hconf]
    rfl

/-- A SETUP packet that is still to be decoded outlives a reset. -/
theorem Valid.asked_cleared (h : s.Valid d) (hflag : s.aborted.unconfigured.setupFlag = true) :
    ∃ packet, d.stage.reset = .asked packet ∧ UsbSetupReq.ofPacket packet =
      if (s.aborted.unconfigured.epCtrl 0).cnt = usbDeviceEpCtrlSize
      then some (.ofBytes s.aborted.unconfigured.ctrlBuffer) else none := by
  obtain ⟨hpart, -, -, hbuffer⟩ := cleared_keeps s
  have hflag' : s.setupFlag = true := (congrArg ControlPart.setupFlag hpart).symm.trans hflag
  obtain ⟨packet, hstage, hpacket⟩ := (h.control.asks hflag').packet
  refine ⟨packet, by rw [hstage]; rfl, ?_⟩
  rw [show s.aborted.unconfigured.epCtrl 0 = s.epCtrl 0 from congrArg ControlPart.out hpart,
    hbuffer]
  exact hpacket

theorem Valid.reset (h : s.Valid d) :
    s.aborted.unconfigured.freshControl.Valid
      { d.unconfigure with address := 0, stage := d.stage.reset } := by
  obtain ⟨hset, hoff⟩ := h.served.1.aborted.unconfigured
  obtain ⟨hpart, hnote, hstring, -⟩ := cleared_keeps s
  have hdevice := h.device_cleared
  have hasked := h.asked_cleared
  have hstatus : s.aborted.unconfigured.udcDeviceStatus = 0 := rfl
  have htype : s.aborted.unconfigured.stringType = usbDtString := by
    rw [stringType, hstring]
    exact h.served.2.2
  have hdone : s.aborted.unconfigured.tcFifo = s.tcFifo := congrArg ControlPart.tcFifo hpart
  have hcnt : (s.aborted.unconfigured.epCtrl 0).cnt ≤ 8 := by
    rw [show s.aborted.unconfigured.epCtrl 0 = s.epCtrl 0 from congrArg ControlPart.out hpart]
    exact h.control.cnt_le
  have hle : s.aborted.unconfigured.payloadNbTrans ≤ 64 := by
    rw [show s.aborted.unconfigured.payloadNbTrans = s.payloadNbTrans from
      congrArg ControlPart.payloadNbTrans hpart]
    exact h.control.nbTrans_le
  generalize s.aborted.unconfigured = t
    at hset hoff hnote hdevice hstatus htype hdone hcnt hle hasked ⊢
  have hiface : t.freshControl.ifacePart = t.ifacePart := ifacePart_congr rfl rfl rfl rfl rfl
  have hdropped : (t.freshControl.epCtrl 0).Dropped ∧ (t.freshControl.epCtrl 1).Dropped :=
    ⟨⟨rfl, rfl, rfl⟩, ⟨rfl, rfl, rfl⟩⟩
  refine ⟨Served.congr ⟨hset, hstatus, htype⟩ hiface, fun i hi => ?_,
    fun hon => absurd hon (ne_of_eq_of_ne hoff Bool.false_ne_true),
    ⟨.inr ⟨rfl, rfl, rfl, rfl⟩, hcnt, hle, ⟨rfl, rfl⟩,
      fun hflag => ⟨hdropped.1, hdropped.2, hasked hflag⟩,
      fun _ => ⟨hdropped.2.not_active, hdropped.1.taken,
        fun ha => absurd ha hdropped.1.not_active⟩⟩, ?_⟩
  · show i ∈ t.tcFifo
    rw [hdone]
    refine h.noted i ?_
    rw [← hnote]
    fin_cases i
    · cases hi
    · cases hi
    all_goals exact hi
  · rw [device_freshControl, hdevice]

/-- A report that has not been handed on is lost. -/
theorem Valid.passes_reset (h : s.Valid d) (out : List UsbOutput) :
    Passes s.inbox s.aborted.unconfigured.freshControl.inbox out := by
  have hoff : s.aborted.unconfigured.mainBGenericEnable = false :=
    h.served.1.aborted.unconfigured.2
  have hbusy : (s.aborted.unconfigured.freshControl.epJob 2).busy = false :=
    Bool.eq_false_iff.2 fun hbusy =>
      nomatch hoff.symm.trans (h.reset.served.1.outEp.busy hbusy).1
  have hpart := (cleared_keeps s).1
  have hready : s.aborted.unconfigured.freshControl.msgReady = s.msgReady :=
    congrArg ControlPart.msgReady hpart
  have hbuf : s.aborted.unconfigured.freshControl.hidRevcBuf = s.hidRevcBuf :=
    congrArg ControlPart.hidRevcBuf hpart
  refine .of_pending_none ?_ (.inl ?_)
  · rw [inbox, hbusy]
    rfl
  · rw [inbox, inbox, hready, hbuf]

theorem step_reset (h : s.Served) :
    step s .reset = some (s.aborted.unconfigured.freshControl, [.reset]) := by
  rw [step, resetInterrupt_eq h.1]
  rfl

theorem reset_advances (h : s.Valid d) : Advances s d (step s .reset) := by
  rw [step_reset h.served]
  exact advances_passing rfl h.reset (h.passes_reset _)

/-! ## Runs -/

theorem sof_advances (h : s.Valid d) : Advances s d (s.udcSofNotify.map fun s => (s, [])) := by
  have hsof : s.udcSofNotify = some s := by
    rw [udcSofNotify]
    by_cases hnum : s.udcNumConfiguration = 0
    · rw [if_neg (not_not.2 hnum)]
      rfl
    · rw [if_pos hnum, udcIfaces_eq (h.served.1.conf hnum)]
      rfl
  rw [hsof]
  exact advances_silent h

/-- The step lemma: the stack comes to grief exactly on strays, and else it does what the device
does. -/
theorem step_advances (h : s.Valid d) (e : UsbEvent) :
    if s.strays e then step s e = none else Advances s d (step s e) := by
  cases e with
  | setup packet => exact setupToken_advances h packet
  | inToken n => exact inToken_advances h n
  | outToken n packet => exact outToken_advances h n packet
  | trncompl => exact trncompl_advances h
  | reset => exact reset_advances h
  | sof => exact sof_advances h
  | underflow => exact underflow_advances h
  | overflow => exact overflow_advances h
  | sendReportIn data => exact sendReportIn_advances h data

/-- What a step that does not come to grief leaves. -/
theorem valid_of_step (h : s.Valid d) {e : UsbEvent} {out : List UsbOutput}
    (hstep : step s e = some (s', out)) :
    ∃ d', HidDevice.step.run d out = some (d', []) ∧ s'.Valid d' ∧ Passes s.inbox s'.inbox out := by
  have hadvances := step_advances h e
  rw [hstep] at hadvances
  split_ifs at hadvances
  obtain ⟨s₁, d', out', heq, hrun, hvalid, hpass⟩ := hadvances
  obtain ⟨rfl, rfl⟩ := Prod.mk.inj (Option.some.inj heq)
  exact ⟨d', hrun, hvalid, hpass⟩

/-- Whatever the host and the application do, the device does what the stack has done. -/
theorem valid_of_run {es : List UsbEvent} {out : List UsbOutput}
    (h : step.run .start es = some (s, out)) :
    ∃ d, HidDevice.step.run .start out = some (d, []) ∧ s.Valid d := by
  refine step.run_history
    (P := fun _ s out => ∃ d, HidDevice.step.run .start out = some (d, []) ∧ s.Valid d)
    ⟨.start, rfl, start_valid⟩ ?_ h
  rintro es t out e t' o ⟨d, hrun, hvalid⟩ hstep
  obtain ⟨d', hrun', hvalid', -⟩ := valid_of_step hvalid hstep
  exact ⟨d', HidDevice.step.run_append hrun hrun', hvalid'⟩

/-- In every run the stack refines the device: what goes over the bus is a run of the device, and
the variables and registers hold what the device has come to. -/
theorem device_of_run {es : List UsbEvent} {out : List UsbOutput}
    (h : step.run .start es = some (s, out)) :
    ∃ d, HidDevice.step.run .start out = some (d, []) ∧ s.Holds d := by
  obtain ⟨d, hrun, hvalid⟩ := valid_of_run h
  exact ⟨d, hrun, hvalid.holds⟩

/-- An address that the host has asked for, and that is not in the register yet. -/
theorem device_of_run_setAddress :
    ∃ s d, step.run .start [.reset, .setup [0, 5, 7, 0, 0, 0, 0, 0], .trncompl] =
        some (s, [.reset, .setup [0, 5, 7, 0, 0, 0, 0, 0], .decoded ⟨0, 5, 7, 0, 0⟩ true]) ∧
      HidDevice.step.run .start [.reset, .setup [0, 5, 7, 0, 0, 0, 0, 0],
        .decoded ⟨0, 5, 7, 0, 0⟩ true] = some (d, []) ∧
      s.Holds d ∧ s.address = 0 ∧ d.address = 7 := by
  have hstate : (step.run .start [.reset, .setup [0, 5, 7, 0, 0, 0, 0, 0], .trncompl]).map
      (fun p => (p.2, p.1.address)) = some ([.reset, .setup [0, 5, 7, 0, 0, 0, 0, 0],
        .decoded ⟨0, 5, 7, 0, 0⟩ true], 0) := by decide +kernel
  have hcoming : (HidDevice.step.run .start [.reset, .setup [0, 5, 7, 0, 0, 0, 0, 0],
      .decoded ⟨0, 5, 7, 0, 0⟩ true]).map (fun p => p.1.address) = some 7 := by decide +kernel
  obtain ⟨⟨s, out⟩, hrun, heq⟩ := Option.map_eq_some_iff.1 hstate
  obtain ⟨rfl, haddress⟩ := Prod.mk.inj heq
  obtain ⟨d, hdevice, hholds⟩ := device_of_run hrun
  rw [hdevice] at hcoming
  exact ⟨s, d, hrun, hdevice, hholds, haddress, Option.some.inj hcoming⟩

/-- No access leaves a table or a buffer, and no wrong callback is called, exactly in the runs
without strays. -/
theorem faults_iff (es : List UsbEvent) :
    step.run .start es = none ↔ ¬ step.Along (fun s e => s.strays e = false) .start es := by
  refine step.run_eq_none_iff (I := fun s => ∃ d, s.Valid d) ?_ ?_ es .start ⟨.start, start_valid⟩
  · rintro s e ⟨d, hvalid⟩ hstays
    have hadvances := step_advances hvalid e
    rw [hstays, if_neg nofun] at hadvances
    obtain ⟨s', d', out, heq, -, hvalid', -⟩ := hadvances
    exact ⟨s', out, heq, d', hvalid'⟩
  · rintro s e ⟨d, hvalid⟩ hstrays
    have hadvances := step_advances hvalid e
    rwa [Bool.of_not_eq_false hstrays, if_pos rfl] at hadvances

/-- Every fault is the host's: it has asked about an endpoint that the tables have not, or has sent
one more packet after the one that ends a reply. -/
theorem fault_provoked {es : List UsbEvent} (h : step.run .start es = none) :
    ∃ pre s out d, pre <+: es ∧ step.run .start pre = some (s, out) ∧
      HidDevice.step.run .start out = some (d, []) ∧ d.provoked = true := by
  obtain ⟨pre, e, s, out, hpre, hrun, hfault⟩ := step.exists_fault h
  obtain ⟨d, hdevice, hvalid⟩ := valid_of_run hrun
  refine ⟨pre, s, out, d, (List.prefix_append ..).trans hpre, hrun, hdevice, ?_⟩
  have hadvances := step_advances hvalid e
  rw [hfault] at hadvances
  split_ifs at hadvances with hstrays
  · exact hvalid.provoked hstrays
  · obtain ⟨s', d', out', heq, -⟩ := hadvances
    cases heq

/-- A host that reads the status, gives up while the first packet is still in the endpoint, ends the
request and then takes the packet and ends it again. -/
theorem fault_provoked_getStatus :
    ∃ pre s out d, pre <+: ([.reset, .setup [0x80, 0, 0, 0, 0, 0, 2, 0], .trncompl, .overflow,
        .inToken 0, .outToken 0 [], .trncompl, .trncompl, .outToken 0 [], .trncompl] :
          List UsbEvent) ∧
      step.run .start pre = some (s, out) ∧ HidDevice.step.run .start out = some (d, []) ∧
      d.provoked = true :=
  fault_provoked (by decide +kernel)

end Usb

end PowerMeterDisplay

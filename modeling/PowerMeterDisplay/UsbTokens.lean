import PowerMeterDisplay.UsbStages

/-!
# Tokens and reports

What the hardware does with a token of the host, what an interrupt does about a transfer of the
interface and what the application does to send a report: each is a step of the device that keeps
the invariant (`Advances`).  The reports of the host are no state of the device, since the host
learns nothing of them; what becomes of them is said beside it (`Passes`).
-/

namespace PowerMeterDisplay

namespace Usb

variable {s s' : Usb} {d d' : HidDevice} {stage : Stage} {packet : List UInt8}

/-! ## Reports of the host -/

/-- What there is of the reports of the host. -/
structure Inbox where
  /-- One that has come in, until the interrupt hands it on. -/
  pending : Option (List UInt8)
  /-- The one that the application keeps. -/
  message : Option (List UInt8)

def inbox (s : Usb) : Inbox where
  pending := if (s.epJob 2).busy && (s.epCtrl 4).trncompl0
    then some (s.reportOut.toList.take (s.epCtrl 4).cnt.toNat) else none
  message := if s.msgReady then some (s.hidRevcBuf.toList.take 64) else none

/-- A report that is pending has come in, and the first whole one that is handed on is kept. -/
structure Passes (i i' : Inbox) (out : List UsbOutput) : Prop where
  pending : ∀ bytes ∈ i'.pending, bytes ∈ i.pending ∨ UsbOutput.received 2 bytes ∈ out
  message : i'.message = i.message ∨
    i.message = none ∧ ∃ bytes ∈ i.pending, bytes.length = 64 ∧ i'.message = some bytes

theorem Passes.refl (i : Inbox) (out : List UsbOutput) : Passes i i out :=
  ⟨fun _ hb => .inl hb, .inl rfl⟩

theorem Passes.of_pending_none {i i' : Inbox} {out : List UsbOutput} (hpending : i'.pending = none)
    (hmessage : i'.message = i.message ∨
      i.message = none ∧ ∃ bytes ∈ i.pending, bytes.length = 64 ∧ i'.message = some bytes) :
    Passes i i' out :=
  ⟨fun _ hb => absurd hb (hpending ▸ nofun), hmessage⟩

/-! ## Steps -/

/-- A step that the device makes too. -/
def Advances (s : Usb) (d : HidDevice) (result : Option (Usb × List UsbOutput)) : Prop :=
  ∃ s' d' out, result = some (s', out) ∧ HidDevice.step.run d out = some (d', []) ∧ s'.Valid d' ∧
    Passes s.inbox s'.inbox out

theorem advances_silent (h : s'.Valid d) (hinbox : s'.inbox = s.inbox := by rfl) :
    Advances s d (some (s', [])) :=
  ⟨s', d, [], rfl, rfl, h, hinbox ▸ .refl s'.inbox []⟩

theorem advances_passing {x : UsbOutput} (hx : d.next x = some d') (h : s'.Valid d')
    (hpass : Passes s.inbox s'.inbox [x]) : Advances s d (some (s', [x])) := by
  refine ⟨s', d', [x], rfl, HidDevice.step.run_singleton ?_, h, hpass⟩
  rw [HidDevice.step, hx]
  rfl

theorem advances_of_next {x : UsbOutput} (hx : d.next x = some d') (h : s'.Valid d')
    (hinbox : s'.inbox = s.inbox := by rfl) : Advances s d (some (s', [x])) :=
  advances_passing hx h (hinbox ▸ .refl s'.inbox [x])

/-- A step that is behind another one for which nothing is handed on. -/
theorem Advances.of_inbox {result : Option (Usb × List UsbOutput)} (h : Advances s d result)
    (hinbox : s.inbox = s'.inbox) : Advances s' d result := by
  rw [Advances, ← hinbox]
  exact h

theorem toNat_length {n : ℕ} (h : packet.length ≤ n) (hn : n < 65536) :
    packet.length.toUInt16.toNat = packet.length :=
  UInt16.toNat_ofNat_of_lt' (by simp only [UInt16.size]; omega)

theorem toUInt16_length_le {n : UInt16} (h : packet.length ≤ n.toNat) :
    packet.length.toUInt16 ≤ n := by
  rw [UInt16.le_iff_toNat_le, toNat_length h (UInt16.toNat_lt n)]
  exact h

/-! ## Tokens of the control endpoint -/

theorem write_ctrlBuffer (h : packet.length ≤ 8) :
    ∃ v, s.write ⟨.ctrlBuffer, 0⟩ packet = some { s with ctrlBuffer := v } ∧
      (packet.length = 8 → v.toList = packet) := by
  by_cases hempty : packet = []
  · refine ⟨s.ctrlBuffer, if_pos hempty, fun hfull => ?_⟩
    rw [hempty] at hfull
    cases hfull
  · obtain ⟨v, hv, htake⟩ := overwrite_zero s.ctrlBuffer h
    refine ⟨v, (if_neg hempty).trans ?_, fun hfull => ?_⟩
    · simp only [hv, Option.map_some]
    · rwa [hfull, List.take_of_length_le (Nat.le_of_eq Vector.length_toList)] at htake

/-- The request of a SETUP packet in the buffer. -/
theorem ofPacket_eq {v : Vector UInt8 8} (hv : packet.length = 8 → v.toList = packet) :
    UsbSetupReq.ofPacket packet =
      if packet.length = 8 then some (.ofBytes v) else none := by
  by_cases hfull : packet.length = 8
  · obtain rfl := hv hfull
    rw [UsbSetupReq.ofPacket, dif_pos hfull, if_pos hfull]
    rfl
  · rw [UsbSetupReq.ofPacket, dif_neg hfull, if_neg hfull]

theorem setupToken_advances (h : s.Valid d) (packet : List UInt8) :
    Advances s d (s.setupToken packet) := by
  rw [setupToken]
  split_ifs with hrefused
  · exact advances_silent h
  obtain htype | ⟨htype, hsize, hptr, -⟩ := h.control.type_eq
  · exact absurd (.inl (by simp [htype])) hrefused
  have hlen : packet.length ≤ 8 := by
    by_contra hlt
    exact hrefused (.inr (by rw [hsize]; exact Nat.lt_of_not_le hlt))
  obtain ⟨v, hv, hfull⟩ := write_ctrlBuffer (s := s) hlen
  have hpacket : UsbSetupReq.ofPacket packet =
      if packet.length.toUInt16 = usbDeviceEpCtrlSize then some (.ofBytes v) else none := by
    have hiff : packet.length.toUInt16 = usbDeviceEpCtrlSize ↔ packet.length = 8 := by
      rw [← UInt16.toNat_inj, toNat_length hlen (by decide)]
      rfl
    simp only [ofPacket_eq hfull, hiff]
  rw [hptr, hv]
  refine advances_of_next (if_pos hlen) (h.of_control (ifacePart_congr rfl rfl rfl rfl rfl) rfl
    (fun i hi => ?_) ⟨h.control.type_eq, toUInt16_length_le hlen, h.control.nbTrans_le, ?_,
      fun _ => ⟨⟨rfl, rfl, rfl⟩, ⟨rfl, rfl, rfl⟩, packet, rfl, hpacket⟩, fun hf => absurd rfl hf⟩)
  · match i with
    | 0 | 1 => exact nomatch hi
    | 2 | 3 | 4 | 5 => exact h.noted _ hi
  · exact h.control.ending

theorem not_nack (c : EpCtrl) (h : c.ready = true) : c.nack0 = false := by
  cases hn : c.nack0 with
  | false => rfl
  | true => simp [EpCtrl.ready, hn] at h

/-- The host has taken the data of an endpoint. -/
def give (i : Fin 6) (s : Usb) : Usb :=
  { s with
    tcFifo := s.tcFifo ++ [i]
    epCtrl :=
      Function.update s.epCtrl i { (s.epCtrl i).complete with auxdata := (s.epCtrl i).cnt } }

theorem inToken_refused {n : Fin 3} {i : Fin 6} (hi : i.val = 2 * n.val + 1)
    (hready : (s.epCtrl i).ready = false) : s.inToken n = some (s, []) := by
  have hplace : (⟨2 * n.val + 1, by omega⟩ : Fin 6) = i := Fin.ext hi.symm
  simp only [inToken, hplace, hready, if_true, Option.pure_def]

theorem inToken_ready {n : Fin 3} {i : Fin 6} {bytes : List UInt8} (hi : i.val = 2 * n.val + 1)
    (hready : (s.epCtrl i).ready = true)
    (hread : s.read (s.epCtrl i).dataptr (s.epCtrl i).cnt.toNat = some bytes) :
    s.inToken n = some (s.give i, [.sent n bytes]) := by
  have hplace : (⟨2 * n.val + 1, by omega⟩ : Fin 6) = i := Fin.ext hi.symm
  simp only [inToken, hplace, hready, hread, Option.bind_eq_bind, Option.bind_some,
    Bool.true_eq_false, if_false]
  rfl

/-- A note of the hardware about an endpoint. -/
theorem Valid.noted_concat (h : s.Valid d) {i : Fin 6} (hfifo : s'.tcFifo = s.tcFifo ++ [i])
    (hother : ∀ k, k ≠ i → s'.epCtrl k = s.epCtrl k) (k : Fin 6)
    (hk : (s'.epCtrl k).trncompl0 = true) : k ∈ s'.tcFifo := by
  rw [hfifo, List.mem_append, List.mem_singleton]
  by_cases hki : k = i
  · exact .inr hki
  · rw [hother k hki] at hk
    exact .inl (h.noted k hk)

/-- A packet of a reply that the host takes. -/
theorem Replying.give {packets : List (List UInt8)} (h : s.Replying packets)
    (hnot : (s.epCtrl 1).trncompl0 = false) :
    ∃ p rest, packets = p :: rest ∧
      s.read (s.epCtrl 1).dataptr (s.epCtrl 1).cnt.toNat = some p ∧
      (s.give 1).Replying rest := by
  obtain ⟨bytes, rest, hcarries, hlen, hrest, hpackets⟩ := h
  rw [hnot] at hpackets
  obtain ⟨p, -, hread, rfl⟩ := hpackets
  exact ⟨p, rest, rfl, hread, bytes, rest, hcarries.congr rfl rfl, hlen, hrest, rfl⟩

/-- What the control endpoint gives to an IN token in each of its states. -/
theorem Valid.control_given (h : s.Valid d) (hready : (s.epCtrl 1).ready = true) :
    ∃ bytes stage, s.read (s.epCtrl 1).dataptr (s.epCtrl 1).cnt.toNat = some bytes ∧
      d.next (.sent 0 bytes) = some { d with stage := stage } ∧
      (s.give 1).Phase stage s.controlState := by
  have hactive : (s.epCtrl 1).Active := .inl hready
  have hnot (htaken : (s.epCtrl 1).Taken) : (s.epCtrl 1).trncompl0 = false :=
    Bool.eq_false_iff.2 fun hdone => nomatch (htaken hdone).symm.trans (not_nack _ hready)
  have hphase := h.control.phase (h.control.flag (.inr hactive))
  cases hstate : s.controlState <;> rw [hstate] at hphase
  case setup | dataOut | stallReq => exact absurd hactive hphase.1
  case dataIn =>
    obtain ⟨hout, htaken, hne, packets, hstage, hreply⟩ := hphase
    obtain ⟨p, rest, rfl, hread, hrest⟩ := (hreply hactive).give (hnot htaken)
    exact ⟨p, .reply rest 0, hread, by simp only [HidDevice.next, hstage, if_true],
      hout, fun _ => rfl, hne, rest, rfl, fun _ => hrest⟩
  case handshakeWaitInZlp =>
    obtain ⟨htaken, hcnt, hout, hstage⟩ := hphase
    have hsame : { d with stage := .status } = d := by rw [← hstage]
    refine ⟨[], .status, ?_, ?_, htaken, fun _ => hcnt hactive, hout, rfl⟩
    · rw [hcnt hactive]
      exact read_eq_some (.inl rfl)
    · rw [hsame]
      simp only [HidDevice.next, hstage, if_true]
  case handshakeWaitOutZlp =>
    obtain ⟨htaken, hne, packets, acks, hstage, hacks, hreply⟩ := hphase
    obtain ⟨p, rest, rfl, hread, hrest⟩ := (hreply hactive).give (hnot htaken)
    exact ⟨p, .reply rest acks, hread, by simp only [HidDevice.next, hstage, if_true],
      fun _ => rfl, hne, rest, acks, rfl, hacks, fun _ => hrest⟩

theorem inToken_zero_advances (h : s.Valid d) : Advances s d (s.inToken 0) := by
  cases hready : (s.epCtrl 1).ready with
  | false =>
    rw [inToken_refused rfl hready]
    exact advances_silent h
  | true =>
    have hflag := h.control.flag (.inr (.inl hready))
    obtain ⟨bytes, stage, hread, hnext, hphase⟩ := h.control_given hready
    rw [inToken_ready rfl hready hread]
    exact advances_of_next hnext (h.of_control (ifacePart_congr rfl rfl rfl rfl rfl) rfl
      (h.noted_concat rfl fun k hk => Function.update_of_ne hk ..)
      ⟨h.control.type_eq, h.control.cnt_le, h.control.nbTrans_le, h.control.ending,
        fun hf => absurd hf hflag, fun _ => hphase⟩)

/-- An endpoint has taken data of the host. -/
def take (i : Fin 6) (n : UInt16) (s : Usb) : Usb :=
  { s with
    tcFifo := s.tcFifo ++ [i]
    epCtrl := Function.update s.epCtrl i { (s.epCtrl i).complete with cnt := n } }

theorem outToken_refused {n : Fin 3} {i : Fin 6} (hi : i.val = 2 * n.val)
    (hrefused : (s.epCtrl i).ready = false ∨
      (if (s.epCtrl i).type = .control then (s.epCtrl i).size
        else (s.epCtrl i).auxdata).toNat < packet.length) :
    s.outToken n packet = some (s, []) := by
  have hplace : (⟨2 * n.val, by omega⟩ : Fin 6) = i := Fin.ext hi.symm
  simp only [outToken, hplace, if_pos hrefused, Option.pure_def]

theorem outToken_ready {n : Fin 3} {i : Fin 6} (hi : i.val = 2 * n.val)
    (hready : (s.epCtrl i).ready = true)
    (hlen : packet.length ≤ (if (s.epCtrl i).type = .control then (s.epCtrl i).size
      else (s.epCtrl i).auxdata).toNat)
    (hwrite : s.write (s.epCtrl i).dataptr packet = some s') (hctrl : s'.epCtrl = s.epCtrl) :
    s.outToken n packet = some (s'.take i packet.length.toUInt16, [.received n packet]) := by
  have hplace : (⟨2 * n.val, by omega⟩ : Fin 6) = i := Fin.ext hi.symm
  have htaken : ¬ ((s.epCtrl i).ready = false ∨
      (if (s.epCtrl i).type = .control then (s.epCtrl i).size
        else (s.epCtrl i).auxdata).toNat < packet.length) := by
    rintro (h | h)
    · exact nomatch h.symm.trans hready
    · exact absurd hlen (Nat.not_le.2 h)
  simp only [outToken, hplace, if_neg htaken, hwrite, Option.bind_eq_bind, Option.bind_some]
  rw [take, ← hctrl]
  rfl

/-- What a packet of the host means to the control endpoint in each of its states. -/
theorem Valid.control_taken (h : s.Valid d) (hready : (s.epCtrl 0).ready = true)
    (hlen : packet.length ≤ 8) (v : Vector UInt8 8) :
    ∃ stage, d.next (.received 0 packet) = some { d with stage := stage } ∧
      (take 0 packet.length.toUInt16 { s with ctrlBuffer := v }).Phase stage s.controlState := by
  have hactive : (s.epCtrl 0).Active := .inl hready
  have hlimit : ¬ 8 < packet.length := Nat.not_lt.2 hlen
  have hstatus (hstage : d.stage = .status) :
      d.next (.received 0 packet) = some { d with stage := .status } := by
    simp only [HidDevice.next, hstage, if_neg hlimit]
    rw [← hstage]
  have hreply {packets : List (List UInt8)} {acks : ℕ} (hstage : d.stage = .reply packets acks) :
      d.next (.received 0 packet) = some { d with stage := .reply packets (acks + 1) } := by
    simp only [HidDevice.next, hstage, if_neg hlimit]
  have hphase := h.control.phase (h.control.flag (.inl hactive))
  cases hstate : s.controlState <;> rw [hstate] at hphase
  case dataIn => exact absurd hactive hphase.1
  case stallReq => exact absurd hactive hphase.2
  case setup =>
    obtain ⟨hinn, -, hidle⟩ := hphase
    obtain ⟨hnb, hstage⟩ | ⟨hne, packets, acks, hstage, hacks, -⟩ := hidle hactive
    · exact ⟨.status, hstatus hstage, hinn, fun _ => rfl, fun _ => .inl ⟨hnb, rfl⟩⟩
    · exact ⟨.reply packets (acks + 1), hreply hstage, hinn, fun _ => rfl, fun _ =>
        .inr ⟨hne, packets, acks + 1, rfl, Nat.le_succ_of_le hacks,
          fun _ => Nat.succ_le_succ hacks⟩⟩
  case dataOut =>
    obtain ⟨hinn, -, hnb, hfills, hstage⟩ := hphase
    exact ⟨.status, hstatus hstage, hinn, fun _ => rfl, hnb, hfills, rfl⟩
  case handshakeWaitInZlp =>
    obtain ⟨-, hcnt, hout, hstage⟩ := hphase
    exact ⟨.status, hstatus hstage, fun _ => rfl, hcnt, fun _ => hout hactive, rfl⟩
  case handshakeWaitOutZlp =>
    obtain ⟨htaken, hne, packets, acks, hstage, -, hreplying⟩ := hphase
    exact ⟨.reply packets (acks + 1), hreply hstage, htaken, hne, packets, acks + 1, rfl,
      fun _ => Nat.succ_le_succ (Nat.zero_le _), fun ha => (hreplying ha).congr rfl⟩

theorem outToken_zero_advances (h : s.Valid d) (packet : List UInt8) :
    Advances s d (s.outToken 0 packet) := by
  by_cases hrefused : (s.epCtrl 0).ready = false ∨
      (if (s.epCtrl 0).type = .control then (s.epCtrl 0).size
        else (s.epCtrl 0).auxdata).toNat < packet.length
  · rw [outToken_refused rfl hrefused]
    exact advances_silent h
  obtain ⟨hready, hlen⟩ := not_or.1 hrefused
  have hready : (s.epCtrl 0).ready = true := Bool.of_not_eq_false hready
  have hlen := Nat.not_lt.1 hlen
  obtain htype | ⟨htype, hsize, hptr, -⟩ := h.control.type_eq
  · simp [EpCtrl.ready, htype] at hready
  have hlen' : packet.length ≤ 8 := by
    rw [if_pos htype, hsize] at hlen
    exact hlen
  obtain ⟨v, hv, -⟩ := write_ctrlBuffer (s := s) hlen'
  rw [← hptr] at hv
  rw [outToken_ready rfl hready hlen hv rfl]
  have hflag := h.control.flag (.inl (.inl hready))
  obtain ⟨stage, hnext, hphase⟩ := h.control_taken hready hlen' v
  exact advances_of_next hnext (h.of_control (ifacePart_congr rfl rfl rfl rfl rfl) rfl
    (h.noted_concat rfl fun k hk => Function.update_of_ne hk ..)
    ⟨h.control.type_eq, toUInt16_length_le hlen', h.control.nbTrans_le, h.control.ending,
      fun hf => absurd hf hflag, fun _ => hphase⟩)

/-! ## Tokens of the interface -/

/-- A step of an endpoint of the interface that halts none. -/
theorem Valid.report_eq (h : s.Valid d) (report : Option (Vector UInt8 64))
    (hrest : { s'.device d.stage with
      halted := (s.device d.stage).halted, report := (s.device d.stage).report } = s.device d.stage)
    (hstall : ∀ j, (s'.epCtrl (ctrlOf j)).stall = (s.epCtrl (ctrlOf j)).stall)
    (hreport : (if (s'.epCtrl 3).ready then some s'.reportIn else none) = report) :
    s'.device d.stage = { d with report := report } := by
  have hhalted : (s'.device d.stage).halted = (s.device d.stage).halted := funext hstall
  have hdevice := h.device_eq
  rw [← hrest, ← hhalted] at hdevice
  rw [← hdevice, ← hreport]
  rfl

theorem Valid.on_of_ready (h : s.Valid d) {j : Fin 4}
    (hready : (s.epCtrl (ctrlOf j)).ready = true) :
    s.mainBGenericEnable = true := by
  have htype : (s.epCtrl (ctrlOf j)).type ≠ .disable := fun htype => by
    simp [EpCtrl.ready, htype] at hready
  have hoff {on : Bool} (heq : (s.epCtrl (ctrlOf j)).type = if on then .bulk else .disable) :
      on = true := by
    cases on with
    | false => exact absurd heq htype
    | true => rfl
  fin_cases j
  · exact absurd h.served.1.unused₁.type_eq htype
  · exact hoff h.served.1.inEp.type_eq
  · exact hoff h.served.1.outEp.type_eq
  · exact absurd h.served.1.unused₂.type_eq htype

theorem ready_of_disable {c : EpCtrl} (htype : c.type = .disable) : c.ready = false := by
  simp [EpCtrl.ready, htype]

theorem ready_of_nack {c : EpCtrl} (hnack : c.nack0 = true) : c.ready = false := by
  simp [EpCtrl.ready, hnack]

/-- A report that waits for the host. -/
theorem Valid.report_of_ready (h : s.Valid d) (hready : (s.epCtrl 3).ready = true) :
    s.mainBGenericEnable = true ∧ (s.epJob 1).busy = true ∧
      s.read (s.epCtrl 3).dataptr (s.epCtrl 3).cnt.toNat = some s.reportIn.toList := by
  have hon : s.mainBGenericEnable = true := h.on_of_ready (j := 1) hready
  have hin := h.served.1.inEp
  have hbusy : (s.epJob 1).busy = true := Bool.of_not_eq_false fun hidle =>
    nomatch (hin.nack0 hon hidle).symm.trans (not_nack _ hready)
  obtain ⟨-, -, -, hcnt, hptr⟩ := hin.loaded (.inl hbusy)
  refine ⟨hon, hbusy, ?_⟩
  rw [hptr, hcnt, read_eq_some (.inr (by decide))]
  exact congrArg some (List.take_of_length_le (Nat.le_of_eq Vector.length_toList))

theorem inToken_one_advances (h : s.Valid d) : Advances s d (s.inToken 1) := by
  cases hready : (s.epCtrl 3).ready with
  | false =>
    rw [inToken_refused rfl hready]
    exact advances_silent h
  | true =>
    obtain ⟨hon, hbusy, hread⟩ := h.report_of_ready hready
    obtain ⟨⟨hconf, hin, hout, h₁, h₂⟩, hserved⟩ := h.served
    have hreport : d.report = some s.reportIn := by
      rw [← h.device_eq]
      exact if_pos hready
    have hnext : d.next (.sent 1 s.reportIn.toList) = some { d with report := none } :=
      if_pos (by rw [hreport, Option.map_some])
    rw [inToken_ready rfl hready hread]
    refine advances_of_next hnext ⟨⟨⟨hconf, ?_, hout, h₁, h₂⟩, hserved⟩, ?_, ?_,
      h.control.congr rfl rfl rfl rfl rfl, ?_⟩
    · obtain ⟨-, hstall, -, hcall⟩ := hin.busy hbusy
      exact ⟨hin.type_eq, hin.size_eq, hin.free_eq, fun _ => ⟨hon, hstall, rfl, hcall⟩,
        fun _ _ => rfl, fun _ => hin.loaded (.inl hbusy),
        fun _ => (hin.loaded (.inl hbusy)).2.2.2.1⟩
    · exact h.noted_concat rfl fun k hk => Function.update_of_ne hk ..
    · intro _ j hj
      match j with
      | 1 => exact hbusy
      | 0 | 2 | 3 => exact h.owned hon _ hj
    · refine h.report_eq none rfl (fun j => ?_) (if_neg ?_)
      · match j with | 0 => rfl | 1 => rfl | 2 => rfl | 3 => rfl
      · exact Bool.eq_false_iff.1 (ready_of_nack rfl)

theorem write_reportOut (h : packet.length ≤ 64) :
    ∃ v, s.write ⟨.reportOut, 0⟩ packet = some { s with reportOut := v } ∧
      v.toList.take packet.length = packet := by
  by_cases hempty : packet = []
  · refine ⟨s.reportOut, if_pos hempty, ?_⟩
    rw [hempty]
    rfl
  · obtain ⟨v, hv, htake⟩ := overwrite_zero s.reportOut h
    refine ⟨v, (if_neg hempty).trans ?_, htake⟩
    simp only [hv, Option.map_some]

theorem Valid.next_received (h : s.Valid d) (hon : s.mainBGenericEnable = true)
    (hstall : (s.epCtrl 4).stall = false) (hlen : packet.length ≤ 64) :
    d.next (.received 2 packet) = some d := by
  have hon' : d.on = true := by rw [← h.device_eq]; exact hon
  have hstall' : d.halted 2 = false := by rw [← h.device_eq]; exact hstall
  exact if_pos ⟨hon', hstall', hlen⟩

theorem outToken_two_advances (h : s.Valid d) (packet : List UInt8) :
    Advances s d (s.outToken 2 packet) := by
  by_cases hrefused : (s.epCtrl 4).ready = false ∨
      (if (s.epCtrl 4).type = .control then (s.epCtrl 4).size
        else (s.epCtrl 4).auxdata).toNat < packet.length
  · rw [outToken_refused rfl hrefused]
    exact advances_silent h
  obtain ⟨hready, hlen⟩ := not_or.1 hrefused
  have hready : (s.epCtrl 4).ready = true := Bool.of_not_eq_false hready
  have hlen := Nat.not_lt.1 hlen
  have hon : s.mainBGenericEnable = true := h.on_of_ready (j := 2) hready
  obtain ⟨⟨hconf, hin, hout, h₁, h₂⟩, hserved⟩ := h.served
  have hbusy : (s.epJob 2).busy = true := Bool.of_not_eq_false fun hidle =>
    nomatch (hout.nack0 hon hidle).symm.trans (not_nack _ hready)
  obtain ⟨-, hstall, -, hcall⟩ := hout.busy hbusy
  obtain ⟨hcache, hsize, hnb, haux, -, hptr⟩ := hout.loaded (.inl hbusy)
  have htype : (s.epCtrl 4).type ≠ .control := by rw [hout.type_eq, hon]; nofun
  have hlen' : packet.length ≤ 64 := by
    rw [if_neg htype, haux] at hlen
    exact hlen
  obtain ⟨v, hv, htake⟩ := write_reportOut (s := s) hlen'
  rw [← hptr] at hv
  rw [outToken_ready rfl hready hlen hv rfl]
  have hpass : Passes s.inbox (take 4 packet.length.toUInt16 { s with reportOut := v }).inbox
      [.received 2 packet] := by
    refine ⟨fun bytes hb => .inr ?_, .inl rfl⟩
    have hbytes : some (v.toList.take packet.length.toUInt16.toNat) = some bytes := by
      rw [← Option.mem_def.1 hb, inbox, if_pos]
      · rfl
      · exact (Bool.and_true _).trans hbusy
    rw [toNat_length hlen' (by decide), htake] at hbytes
    rw [Option.some.inj hbytes]
    exact List.mem_singleton_self _
  refine advances_passing (h.next_received hon hstall hlen') ⟨⟨⟨hconf, hin, ?_, h₁, h₂⟩, hserved⟩,
    ?_, ?_, h.control.congr rfl rfl rfl rfl rfl, ?_⟩ hpass
  · exact ⟨hout.type_eq, hout.size_eq, fun _ => ⟨hon, hstall, rfl, hcall⟩, fun _ _ => rfl,
      fun _ => ⟨hcache, hsize, hnb, haux, toUInt16_length_le hlen', hptr⟩⟩
  · exact h.noted_concat rfl fun k hk => Function.update_of_ne hk ..
  · intro _ j hj
    match j with
    | 2 => exact hbusy
    | 0 | 1 | 3 => exact h.owned hon _ hj
  · refine h.report_eq d.report rfl (fun j => ?_) (congrArg HidDevice.report h.device_eq)
    match j with | 0 => rfl | 1 => rfl | 2 => rfl | 3 => rfl

/-- An endpoint answers tokens as the device allows. -/
theorem inToken_advances (h : s.Valid d) (n : Fin 3) : Advances s d (s.inToken n) := by
  match n with
  | 0 => exact inToken_zero_advances h
  | 1 => exact inToken_one_advances h
  | 2 =>
    rw [inToken_refused (i := 5) rfl (ready_of_disable h.served.1.unused₂.type_eq)]
    exact advances_silent h

theorem outToken_advances (h : s.Valid d) (n : Fin 3) (packet : List UInt8) :
    Advances s d (s.outToken n packet) := by
  match n with
  | 0 => exact outToken_zero_advances h packet
  | 1 =>
    rw [outToken_refused (i := 2) rfl (.inl (ready_of_disable h.served.1.unused₁.type_eq))]
    exact advances_silent h
  | 2 => exact outToken_two_advances h packet

/-! ## Reports -/

/-- The interrupt has read a note of the hardware. -/
theorem Valid.noted_tail (h : s.Valid d) {i : Fin 6} {fifo : List (Fin 6)}
    (hfifo : s.tcFifo = i :: fifo) (htail : s'.tcFifo = fifo)
    (hother : ∀ k, (s'.epCtrl k).trncompl0 = true → k ≠ i ∧ (s.epCtrl k).trncompl0 = true)
    (k : Fin 6) (hk : (s'.epCtrl k).trncompl0 = true) : k ∈ s'.tcFifo := by
  obtain ⟨hne, hk⟩ := hother k hk
  have hmem := h.noted k hk
  rw [hfifo] at hmem
  rw [htail]
  exact (List.mem_cons.1 hmem).resolve_left hne

/-- What is left once a note has been read. -/
def pop (i : Fin 6) (fifo : List (Fin 6)) (s : Usb) : Usb :=
  { s with
    tcFifo := fifo
    epCtrl := Function.update s.epCtrl i { s.epCtrl i with trncompl0 := false } }

theorem pop_done (i : Fin 6) (fifo : List (Fin 6)) (s : Usb) (k : Fin 6)
    (hk : ((s.pop i fifo).epCtrl k).trncompl0 = true) : k ≠ i ∧ (s.epCtrl k).trncompl0 = true := by
  simp only [pop] at hk
  by_cases hki : k = i
  · rw [hki, Function.update_self] at hk
    exact nomatch hk
  · rw [Function.update_of_ne hki] at hk
    exact ⟨hki, hk⟩

/-- The report of the IN endpoint has been sent. -/
def reportSent (fifo : List (Fin 6)) (s : Usb) : Usb :=
  { s with
    tcFifo := fifo
    epCtrl := Function.update s.epCtrl 3 { s.epCtrl 3 with trncompl0 := false }
    epJob := Function.update s.epJob 1 { s.epJob 1 with busy := false, nbTrans := 64 }
    bReportInFree := s.bReportInFree || (s.epJob 1).busy }

theorem transComplet_reportSent (h : s.Settled) (hdone : (s.epCtrl 3).trncompl0 = true)
    (fifo : List (Fin 6)) :
    uddEpTransComplet transDepth (epAddress 3) (s.pop 3 fifo) = some (s.reportSent fifo) := by
  obtain ⟨hshort, hsize, hnb, -⟩ := h.inEp.loaded (.inr hdone)
  have hend := transComplet_in (s := s.pop 3 fifo) 1 hshort hsize hnb (h.inEp.sent hdone)
  rw [show epAddress 3 = udiHidGenericEpIn from rfl, reportSent]
  cases hbusy : (s.epJob 1).busy with
  | false =>
    have hjob : ({ s.epJob 1 with busy := false, nbTrans := 64 } : EpJob) =
        { s.epJob 1 with nbTrans := 64 } := by rw [← hbusy]
    rw [hend.trans (if_pos hbusy), hjob, Bool.or_false]
    rfl
  | true =>
    have hcall : ((s.pop 3 fifo).epJob 1).callTrans = some .reportInSent :=
      (h.inEp.busy hbusy).2.2.2
    rw [hend.trans (if_neg (ne_of_eq_of_ne hbusy (by decide))), Bool.or_true]
    exact congrArg (fun callback => callTransOk _ _ callback _) hcall

theorem Valid.reportSent (h : s.Valid d) {fifo : List (Fin 6)} (hfifo : s.tcFifo = 3 :: fifo)
    (hdone : (s.epCtrl 3).trncompl0 = true) : (s.reportSent fifo).Valid d := by
  obtain ⟨⟨hconf, hin, hout, h₁, h₂⟩, hserved⟩ := h.served
  refine ⟨⟨⟨hconf, ⟨hin.type_eq, hin.size_eq, fun hon => ?_, nofun, fun hon _ => ?_, ?_, nofun⟩,
    hout, h₁, h₂⟩, hserved⟩, h.noted_tail hfifo rfl (pop_done 3 fifo s), fun hon j hj => ?_,
    h.control.congr rfl rfl rfl rfl rfl, ?_⟩
  · show (s.bReportInFree || (s.epJob 1).busy) = true
    rw [hin.free_eq hon, Bool.not_or_self]
  · exact (hin.busy (h.owned hon 1 hdone)).2.2.1.trans hdone
  · rintro (hb | hb) <;> exact nomatch hb
  · match j with
    | 1 => exact nomatch hj
    | 0 | 2 | 3 => exact h.owned hon _ hj
  · refine h.report_eq d.report rfl (fun j => ?_) (congrArg HidDevice.report h.device_eq)
    match j with | 0 => rfl | 1 => rfl | 2 => rfl | 3 => rfl

/-- The OUT endpoint waits for the next report; the one before it may have been kept. -/
def rearm (fifo : List (Fin 6)) (buf : Vector UInt8 65) (ready : Bool) (s : Usb) : Usb :=
  { s with
    tcFifo := fifo
    epCtrl := Function.update s.epCtrl 4 { s.epCtrl 4 with
      trncompl0 := false, cnt := 0, auxdata := 64, dataptr := ⟨.reportOut, 0⟩, nack0 := false }
    epJob := Function.update s.epJob 2
      ⟨true, false, false, .reportOut, 64, 0, some .reportOutReceived⟩
    hidRevcBuf := buf
    msgReady := ready }

/-- What is kept of the reports of the host when another one, of `n` bytes, has come in. -/
def Keeps (s : Usb) (n : UInt16) (buf : Vector UInt8 65) (ready : Bool) : Prop :=
  if n = 64 then
    ready = true ∧ buf.toList.take 64 =
      if s.msgReady then s.hidRevcBuf.toList.take 64 else s.reportOut.toList
  else ready = s.msgReady ∧ buf = s.hidRevcBuf

theorem reportOutReceived_eq (h : Idle (s.epCtrl 4) (s.epJob 2)) (n : UInt16) (depth : ℕ) :
    ∃ buf ready, callTransOk (uddEpTransComplet (depth + 1)) n (some .reportOutReceived) s =
      some (armOut { s with hidRevcBuf := buf, msgReady := ready }) ∧ s.Keeps n buf ready := by
  have hrun (buf : Vector UInt8 65) (ready : Bool) :=
    reportOutEnable_eq (s := { s with hidRevcBuf := buf, msgReady := ready }) h depth
  by_cases hfull : n = 64
  · obtain ⟨buf, hbuf, hkept⟩ := hidMessage_eq s
    refine ⟨buf, true, ?_, (if_pos hfull).mpr ⟨rfl, hkept⟩⟩
    rw [callTransOk]
    simp only [if_pos (show n = udiHidReportOutSize from hfull), hbuf, hrun, Option.bind_eq_bind,
      Option.bind_some, Option.pure_def]
  · refine ⟨s.hidRevcBuf, s.msgReady, ?_, (if_neg hfull).mpr ⟨rfl, rfl⟩⟩
    rw [callTransOk]
    have hsame := hrun s.hidRevcBuf s.msgReady
    simp only [if_neg (show ¬ n = udiHidReportOutSize from hfull), hsame, Option.bind_eq_bind,
      Option.bind_some, Option.pure_def]

theorem transComplet_rearm (h : s.Settled) (hdone : (s.epCtrl 4).trncompl0 = true)
    (hbusy : (s.epJob 2).busy = true) (fifo : List (Fin 6)) :
    ∃ buf ready, uddEpTransComplet transDepth (epAddress 4) (s.pop 4 fifo) =
      some (s.rearm fifo buf ready) ∧ s.Keeps (s.epCtrl 4).cnt buf ready := by
  obtain ⟨hcache, hsize, hnb, haux, hcnt, -⟩ := h.outEp.loaded (.inr hdone)
  obtain ⟨hon, hstall, -, hcall⟩ := h.outEp.busy hbusy
  have hend := transComplet_out (s := s.pop 4 fifo) 1 hcache hsize hnb haux hcnt
  let s₁ := (s.pop 4 fifo).setJob 2 { s.epJob 2 with nbTrans := (s.epCtrl 4).cnt, busy := false }
  have hidle : Idle (s₁.epCtrl 4) (s₁.epJob 2) :=
    ⟨h.outEp.type_eq.trans (if_pos hon), h.outEp.size_eq hon, hstall, rfl⟩
  obtain ⟨buf, ready, hcalled, hkeeps⟩ := reportOutReceived_eq hidle (s.epCtrl 4).cnt 0
  refine ⟨buf, ready, ?_, hkeeps⟩
  rw [show epAddress 4 = udiHidGenericEpOut from rfl,
    hend.trans (if_neg (ne_of_eq_of_ne hbusy (by decide)))]
  refine (congrArg (fun callback => callTransOk _ _ callback _) hcall).trans (hcalled.trans ?_)
  rw [armOut, rearm]
  simp only [s₁, pop, setCtrl, setJob, Function.update_idem, Function.update_self]

theorem Valid.rearm (h : s.Valid d) {fifo : List (Fin 6)} (hfifo : s.tcFifo = 4 :: fifo)
    (hbusy : (s.epJob 2).busy = true) (buf : Vector UInt8 65) (ready : Bool) :
    (s.rearm fifo buf ready).Valid d := by
  obtain ⟨⟨hconf, hin, hout, h₁, h₂⟩, hserved⟩ := h.served
  obtain ⟨hon, hstall, -, -⟩ := hout.busy hbusy
  refine ⟨⟨⟨hconf, hin, ⟨hout.type_eq, hout.size_eq, fun _ => ⟨hon, hstall, rfl, rfl⟩, nofun,
    fun _ => ⟨rfl, rfl, rfl, rfl, (by decide : (0 : UInt16) ≤ 64), rfl⟩⟩, h₁, h₂⟩, hserved⟩,
    h.noted_tail hfifo rfl fun k hk => ?_, fun _ j hj => ?_,
    h.control.congr rfl rfl rfl rfl rfl, ?_⟩
  · match k with
    | 4 => exact nomatch hk
    | 0 | 1 | 2 | 3 | 5 => exact ⟨by decide, hk⟩
  · match j with
    | 2 => rfl
    | 0 | 1 | 3 => exact h.owned hon _ hj
  · refine h.report_eq d.report rfl (fun j => ?_) (congrArg HidDevice.report h.device_eq)
    match j with | 0 => rfl | 1 => rfl | 2 => rfl | 3 => rfl

/-- A packet of an OUT endpoint whose job has been aborted is dropped. -/
theorem Valid.dropReport (h : s.Valid d) {fifo : List (Fin 6)} (hfifo : s.tcFifo = 4 :: fifo)
    (hdone : (s.epCtrl 4).trncompl0 = true) (hbusy : (s.epJob 2).busy = false) (n : UInt16) :
    ((s.pop 4 fifo).setJob 2 { s.epJob 2 with nbTrans := n }).Valid d := by
  obtain ⟨⟨hconf, hin, hout, h₁, h₂⟩, hserved⟩ := h.served
  have hoff : s.mainBGenericEnable ≠ true :=
    fun hon => nomatch (h.owned hon 2 hdone).symm.trans hbusy
  refine ⟨⟨⟨hconf, hin, ⟨hout.type_eq, hout.size_eq,
    fun hb => absurd hb (ne_of_eq_of_ne hbusy nofun), fun hon => absurd hon hoff, ?_⟩,
    h₁, h₂⟩, hserved⟩,
    h.noted_tail hfifo rfl (pop_done 4 fifo s), fun hon => absurd hon hoff,
    h.control.congr rfl rfl rfl rfl rfl, ?_⟩
  · rintro (hb | hb)
    · exact nomatch hb.symm.trans hbusy
    · exact nomatch hb
  · refine h.report_eq d.report rfl (fun j => ?_) (congrArg HidDevice.report h.device_eq)
    match j with | 0 => rfl | 1 => rfl | 2 => rfl | 3 => rfl

theorem transComplet_drop (h : s.Settled) (hdone : (s.epCtrl 4).trncompl0 = true)
    (hbusy : (s.epJob 2).busy = false) (fifo : List (Fin 6)) :
    uddEpTransComplet transDepth (epAddress 4) (s.pop 4 fifo) =
      some ((s.pop 4 fifo).setJob 2 { s.epJob 2 with nbTrans := (s.epCtrl 4).cnt }) := by
  obtain ⟨hcache, hsize, hnb, haux, hcnt, -⟩ := h.outEp.loaded (.inr hdone)
  have hend := transComplet_out (s := s.pop 4 fifo) 1 hcache hsize hnb haux hcnt
  exact hend.trans (if_pos hbusy)

/-- A whole report is handed on to the application. -/
theorem passes_rearm (hdone : (s.epCtrl 4).trncompl0 = true) (hbusy : (s.epJob 2).busy = true)
    {buf : Vector UInt8 65} {ready : Bool} (hkeeps : s.Keeps (s.epCtrl 4).cnt buf ready)
    (fifo : List (Fin 6)) : Passes s.inbox (s.rearm fifo buf ready).inbox [] := by
  refine .of_pending_none rfl ?_
  have hmessage : (s.rearm fifo buf ready).inbox.message =
      if ready then some (buf.toList.take 64) else none := rfl
  by_cases hfull : (s.epCtrl 4).cnt = 64
  · rw [Keeps, if_pos hfull] at hkeeps
    obtain ⟨rfl, hbuf⟩ := hkeeps
    rw [hmessage, if_pos rfl, hbuf, inbox]
    cases hready : s.msgReady with
    | true => exact .inl rfl
    | false =>
      refine .inr ⟨rfl, s.reportOut.toList, ?_, Vector.length_toList, rfl⟩
      rw [hbusy, hdone, hfull]
      exact congrArg some (List.take_of_length_le (Nat.le_of_eq Vector.length_toList))
  · rw [Keeps, if_neg hfull] at hkeeps
    obtain ⟨rfl, rfl⟩ := hkeeps
    exact .inl rfl

/-- The note of a transfer of a report is about nothing else. -/
theorem report_done (h : s.Valid d) {i : Fin 6} {fifo : List (Fin 6)} (hfifo : s.tcFifo = i :: fifo)
    (hdone : (s.epCtrl i).trncompl0 = true) (hi₀ : i ≠ 0) (hi₁ : i ≠ 1) :
    ∃ s', uddEpTransComplet transDepth (epAddress i) (s.pop i fifo) = some s' ∧ s'.Valid d ∧
      s'.tcFifo = fifo ∧ s'.epCtrl 0 = s.epCtrl 0 ∧ s'.epCtrl 1 = s.epCtrl 1 ∧
      s'.setupFlag = s.setupFlag ∧ Passes s.inbox s'.inbox [] := by
  have hset := h.served.1
  match i with
  | 0 => exact absurd rfl hi₀
  | 1 => exact absurd rfl hi₁
  | 2 => exact nomatch hset.unused₁.trncompl0.symm.trans hdone
  | 3 =>
    exact ⟨_, transComplet_reportSent hset hdone fifo, h.reportSent hfifo hdone, rfl, rfl, rfl,
      rfl, .refl s.inbox []⟩
  | 4 =>
    cases hbusy : (s.epJob 2).busy with
    | false =>
      refine ⟨_, transComplet_drop hset hdone hbusy fifo, h.dropReport hfifo hdone hbusy _, rfl,
        rfl, rfl, rfl, .of_pending_none (if_neg ?_) (.inl rfl)⟩
      exact Bool.eq_false_iff.1 (Bool.and_false _)
    | true =>
      obtain ⟨buf, ready, hend, hkeeps⟩ := transComplet_rearm hset hdone hbusy fifo
      exact ⟨_, hend, h.rearm hfifo hbusy buf ready, rfl, rfl, rfl, rfl,
        passes_rearm hdone hbusy hkeeps fifo⟩
  | 5 => exact nomatch hset.unused₂.trncompl0.symm.trans hdone

theorem ready_of_stall {c : EpCtrl} (hstall : c.stall = true) : c.ready = false := by
  simp [EpCtrl.ready, hstall]

/-- A report that is refused has still been stored. -/
theorem Valid.storeReport (h : s.Valid d) (hready : (s.epCtrl 3).ready = false)
    (data : Vector UInt8 64) : ({ s with reportIn := data }).Valid d := by
  have hreport : d.report = none := by
    rw [← h.device_eq]
    exact if_neg (Bool.eq_false_iff.1 hready)
  have hdevice : ({ s with reportIn := data } : Usb).device d.stage = { d with report := none } :=
    h.report_eq none rfl (fun _ => rfl) (if_neg (Bool.eq_false_iff.1 hready))
  refine ⟨h.served, h.noted, h.owned, h.control.congr rfl rfl rfl rfl rfl, ?_⟩
  rw [hdevice, ← hreport]

theorem Valid.armIn (h : s.Valid d) (hfree : s.bReportInFree = true)
    (hon : s.mainBGenericEnable = true) (hstall : (s.epCtrl 3).stall = false)
    (data : Vector UInt8 64) :
    ({ (Usb.armIn { s with reportIn := data }) with bReportInFree := false }).Valid
      { d with report := some data } := by
  obtain ⟨⟨hconf, hin, hout, h₁, h₂⟩, hserved⟩ := h.served
  have hbusy : (s.epJob 1).busy = false := by
    rw [hin.free_eq hon, Bool.not_eq_true'] at hfree
    exact hfree
  have hdone : (s.epCtrl 3).trncompl0 = false :=
    Bool.eq_false_iff.2 fun hdone => nomatch (h.owned hon 1 hdone).symm.trans hbusy
  refine ⟨⟨⟨hconf, ⟨hin.type_eq, hin.size_eq, fun _ => rfl, fun _ => ⟨hon, hstall, hdone.symm, rfl⟩,
    nofun, fun _ => ⟨rfl, rfl, rfl, rfl, rfl⟩, fun hd => absurd hd (ne_of_eq_of_ne hdone nofun)⟩,
    hout, h₁, h₂⟩, hserved⟩, fun k hk => ?_, fun _ j hj => ?_,
    h.control.congr rfl rfl rfl rfl rfl, ?_⟩
  · match k with
    | 3 => exact nomatch hdone.symm.trans hk
    | 0 | 1 | 2 | 4 | 5 => exact h.noted _ hk
  · match j with
    | 1 => rfl
    | 0 | 2 | 3 => exact h.owned hon _ hj
  · refine h.report_eq (some data) rfl (fun j => ?_) (if_pos ?_)
    · match j with | 0 => rfl | 1 => rfl | 2 => rfl | 3 => rfl
    · have htype : (s.epCtrl 3).type = .bulk := hin.type_eq.trans (if_pos hon)
      show EpCtrl.ready { s.epCtrl 3 with
        cnt := 64, auxdata := 0, dataptr := ⟨.reportIn, 0⟩, nack0 := false } = true
      simp only [EpCtrl.ready, htype, hstall]
      rfl

theorem sendReportIn_eq {data : Vector UInt8 64} {ok : Bool} (hfree : s.bReportInFree ≠ false)
    (hrun : uddEpRun (uddEpTransComplet transDepth) udiHidGenericEpIn false .reportIn
      udiHidReportInSize .reportInSent { s with reportIn := data } = some (s', ok)) :
    s.udiHidGenericSendReportIn data = some ({ s' with bReportInFree := !ok }, ok) := by
  rw [udiHidGenericSendReportIn, if_neg hfree, hrun]
  rfl

/-- The report is accepted, is refused because another is under way, or is refused because there is
no endpoint for it. -/
theorem sendReportIn_cases (h : s.Valid d) (data : Vector UInt8 64) :
    s.udiHidGenericSendReportIn data = some (s, false) ∨
      s.bReportInFree = true ∧ s.mainBGenericEnable = true ∧ (s.epCtrl 3).stall = false ∧
        (s.epCtrl 3).ready = false ∧ s.udiHidGenericSendReportIn data =
          some ({ (Usb.armIn { s with reportIn := data }) with bReportInFree := false }, true) ∨
      (s.epCtrl 3).ready = false ∧
        s.udiHidGenericSendReportIn data = some ({ s with reportIn := data }, false) := by
  by_cases hfree : s.bReportInFree = false
  · rw [udiHidGenericSendReportIn, if_pos hfree]
    exact .inl rfl
  have hfree' : s.bReportInFree = true := Bool.of_not_eq_false hfree
  have hin := h.served.1.inEp
  by_cases hrun : s.mainBGenericEnable = true ∧ (s.epCtrl 3).stall = false
  · obtain ⟨hon, hstall⟩ := hrun
    have hbusy : (s.epJob 1).busy = false := by
      rw [hin.free_eq hon, Bool.not_eq_true'] at hfree'
      exact hfree'
    rw [sendReportIn_eq hfree (reportInRun_eq (s := { s with reportIn := data })
      ⟨hin.type_eq.trans (if_pos hon), hin.size_eq hon, hstall, hbusy⟩ 1)]
    exact .inr (.inl ⟨hfree', hon, hstall, ready_of_nack (hin.nack0 hon hbusy), rfl⟩)
  · have hrefused : (s.epCtrl 3).type = .disable ∨
        (s.epCtrl 3).type = .bulk ∧ ((s.epCtrl 3).stall = true ∨ (s.epJob 1).busy = true) := by
      have htype := hin.type_eq
      cases hon : s.mainBGenericEnable with
      | false => exact .inl (htype.trans (if_neg (Bool.eq_false_iff.1 hon)))
      | true => exact .inr ⟨htype.trans (if_pos hon),
          .inl (Bool.of_not_eq_false fun hstall => hrun ⟨hon, hstall⟩)⟩
    have hready : (s.epCtrl 3).ready = false := by
      obtain htype | ⟨htype, hstall | hbusy⟩ := hrefused
      · exact ready_of_disable htype
      · exact ready_of_stall hstall
      · obtain ⟨hon, hstall, -⟩ := hin.busy hbusy
        exact absurd ⟨hon, hstall⟩ hrun
    rw [sendReportIn_eq hfree (uddEpRun_refused (s := { s with reportIn := data }) (j := 1) rfl
      hrefused ..)]
    have hsame : ({ s with reportIn := data, bReportInFree := !false } : Usb) =
        { s with reportIn := data } := by rw [Bool.not_false, ← hfree']
    exact .inr (.inr ⟨hready, congrArg (fun s => some (s, false)) hsame⟩)

theorem sendReportIn_advances (h : s.Valid d) (data : Vector UInt8 64) :
    Advances s d ((s.udiHidGenericSendReportIn data).map
      fun r => (r.1, if r.2 then [.queued data] else [])) := by
  obtain hsent | ⟨hfree, hon, hstall, hready, hsent⟩ | ⟨hready, hsent⟩ := sendReportIn_cases h data
  · rw [hsent]
    exact advances_silent h
  · have hreport : d.report = none := by
      rw [← h.device_eq]
      exact if_neg (Bool.eq_false_iff.1 hready)
    have hnext : d.next (.queued data) = some { d with report := some data } := by
      have hon' : d.on = true := by rw [← h.device_eq]; exact hon
      have hstall' : d.halted 1 = false := by rw [← h.device_eq]; exact hstall
      exact if_pos ⟨hon', hstall', hreport⟩
    rw [hsent]
    exact advances_of_next hnext (h.armIn hfree hon hstall data)
  · rw [hsent]
    exact advances_silent (h.storeReport hready data)

end Usb

end PowerMeterDisplay

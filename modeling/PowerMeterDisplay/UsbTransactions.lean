import PowerMeterDisplay.UsbRun

/-!
# Transactions of the host

A host that keeps to the stages of a request (`Transaction`, `Session`) gets an answer to every
token, provided that each is dealt with before the next one comes (`lockStep`): the interrupt for a
token that is refused in between may end a request early.  This holds in every state that the stack
can be in once no note of the hardware is left (`session_served`), and a reset of the bus leads
there from any other (`reset_serves`).
-/

namespace PowerMeterDisplay

namespace Usb

variable {s s' : Usb} {d d' : HidDevice} {r : UsbSetupReq} {packet : List UInt8}

/-! ## An endpoint that waits for the host -/

/-- There has been a reset of the bus, and every note of the hardware has been read. -/
structure Calm (s : Usb) : Prop where
  fifo : s.tcFifo = []
  type_eq : (s.epCtrl 0).type = .control

/-- What a step of the device does is known from what goes over the bus. -/
theorem Advances.silent (h : Advances s d (some (s', []))) : s'.Valid d := by
  obtain ⟨s₁, d', out, heq, hrun, hvalid, -⟩ := h
  obtain ⟨rfl, rfl⟩ := Prod.mk.inj (Option.some.inj heq)
  obtain ⟨rfl, -⟩ := Prod.mk.inj (Option.some.inj hrun)
  exact hvalid

theorem Advances.next {x : UsbOutput} (h : Advances s d (some (s', [x])))
    (hx : d.next x = some d') : s'.Valid d' := by
  obtain ⟨s₁, d'', out, heq, hrun, hvalid, -⟩ := h
  obtain ⟨rfl, rfl⟩ := Prod.mk.inj (Option.some.inj heq)
  have hstep : HidDevice.step d x = some (d', []) := by
    rw [HidDevice.step, hx]
    rfl
  obtain ⟨rfl, -⟩ :=
    Prod.mk.inj (Option.some.inj ((HidDevice.step.run_singleton hstep).symm.trans hrun))
  exact hvalid

/-- An event, and the interrupt that tells of it. -/
theorem run_trncompl {e : UsbEvent} {s₁ s₂ : Usb} {o₁ o₂ : List UsbOutput}
    (he : step s e = some (s₁, o₁)) (ht : s₁.trncomplInterrupt = some (s₂, o₂)) :
    step.run s [e, .trncompl] = some (s₂, o₁ ++ o₂) :=
  step.run_cons he (step.run_singleton (e := .trncompl) ht)

/-! ## Packets of a reply -/

/-- The endpoint has dropped the last request and read the next one, which is all it has to do. -/
structure Hears (t : Usb) (d : HidDevice) (r : UsbSetupReq) : Prop where
  listening : t.Listening
  calm : t.Calm
  device_eq : ∀ stage, t.device stage = { d with stage := stage }
  req_eq : t.ctrlreq.req = r
  callback : t.ctrlreq.callback = none
  payloadSize : t.ctrlreq.payloadSize = 0

theorem Hears.replies {t : Usb} (ht : t.Hears d r) (hin : r.isIn = true)
    (hmiss : r.missesTables = false) : t.Replies (d.reply r) (udcProcessSetup t) := by
  have hlisten := ht.listening
  have hreplies : t.Replies ((t.device d.stage).reply t.ctrlreq.req) (udcProcessSetup t) :=
    udcProcessSetup_replies hlisten.served (ht.req_eq ▸ hin) (ht.req_eq ▸ hmiss)
      ⟨hlisten.out.stall, hlisten.inn.stall⟩ ht.callback ht.payloadSize
  rwa [ht.device_eq, ht.req_eq] at hreplies

theorem Hears.accepts {t : Usb} (ht : t.Hears d r) (hin : r.isIn = false)
    (hmiss : r.missesTables = false) : t.Accepts d.stage (d.accept r) (udcProcessSetup t) := by
  have hlisten := ht.listening
  have haccepts : t.Accepts d.stage ((t.device d.stage).accept t.ctrlreq.req) (udcProcessSetup t) :=
    udcProcessSetup_accepts ⟨hlisten.served, hlisten.quiet, ht.callback, ht.payloadSize,
      hlisten.out.stall, hlisten.inn.stall⟩ (ht.req_eq ▸ hin) (ht.req_eq ▸ hmiss)
  rwa [ht.device_eq, ht.req_eq] at haccepts

theorem Calm.inSent (h : s.Calm) (hstate : s.controlState ≠ .handshakeWaitInZlp) :
    s.uddCtrlInSent.Calm := by
  rw [uddCtrlInSent, if_neg hstate]
  dsimp only
  split_ifs <;> exact ⟨h.fifo, h.type_eq⟩

theorem Calm.answerRequest {p : Usb × Bool} (h : p.1.Calm) (r : UsbSetupReq) :
    (answerRequest r p).1.Calm := by
  unfold Usb.answerRequest
  dsimp only
  split_ifs
  · exact ⟨h.fifo, h.type_eq⟩
  · have hcalm : Calm { p.1 with
        prevPayloadNbTrans := 0, payloadNbTrans := 0, controlState := .dataIn } :=
      ⟨h.fifo, h.type_eq⟩
    exact hcalm.inSent CtrlEpState.noConfusion
  · exact ⟨h.fifo, h.type_eq⟩
  · exact ⟨h.fifo, h.type_eq⟩

theorem Calm.asked (h : s.Calm) (hasked : s.Asked s') : s'.Calm := by
  rw [hasked.1]
  exact ⟨h.fifo, h.type_eq⟩

/-- The application takes a report of the host, and keeps it if it has none. -/
theorem report_taken (h : s.Valid d) (hcalm : s.Calm) (hready : (s.epCtrl 4).ready = true)
    {bytes : List UInt8} (hlen : bytes.length = 64) :
    ∃ s', step.run s [.outToken 2 bytes, .trncompl] = some (s', [.received 2 bytes]) ∧ s'.Valid d ∧
      s'.Calm ∧ (s'.epCtrl 4).ready = true ∧
      s'.inbox.message = s.inbox.message.or (some bytes) := by
  have hon := h.on_of_ready (j := 2) hready
  have hout := h.served.1.outEp
  have htype : (s.epCtrl 4).type = .bulk := hout.type_eq.trans (if_pos hon)
  have hbusy : (s.epJob 2).busy = true := Bool.of_not_eq_false fun hidle =>
    nomatch (hout.nack0 hon hidle).symm.trans (not_nack _ hready)
  obtain ⟨-, hstall, -, -⟩ := hout.busy hbusy
  obtain ⟨-, -, -, haux, -, hptr⟩ := hout.loaded (.inl hbusy)
  obtain ⟨v, hv, htake⟩ := write_reportOut (s := s) (Nat.le_of_eq hlen)
  rw [hlen, List.take_of_length_le (Nat.le_of_eq Vector.length_toList)] at htake
  rw [← hptr] at hv
  let s₁ := take 4 bytes.length.toUInt16 { s with reportOut := v }
  have htoken : s.outToken 2 bytes = some (s₁, [.received 2 bytes]) := by
    refine outToken_ready rfl hready ?_ hv rfl
    rw [htype, if_neg nofun, haux]
    exact Nat.le_of_eq hlen
  have htaken : s₁.Valid d := by
    have hadvances := outToken_advances h 2 bytes
    rw [htoken] at hadvances
    exact hadvances.next (h.next_received hon hstall (Nat.le_of_eq hlen))
  have hfifo : s₁.tcFifo = [4] := congrArg (· ++ [4]) hcalm.fifo
  obtain ⟨buf, ready, hend, hkeeps⟩ := transComplet_rearm htaken.served.1 rfl hbusy []
  have hreceived : s₁.trncomplInterrupt = some (s₁.rearm [] buf ready, []) := by
    rw [trncomplInterrupt_cons hfifo rfl, if_neg (by decide), if_neg (by decide), hend]
    rfl
  refine ⟨_, run_trncompl (e := .outToken 2 bytes) htoken hreceived,
    htaken.rearm hfifo hbusy buf ready, ⟨rfl, hcalm.type_eq⟩, ?_, ?_⟩
  · rw [show (s₁.rearm [] buf ready).epCtrl 4 = { (s.epCtrl 4).complete with
      trncompl0 := false, cnt := 0, auxdata := 64, dataptr := ⟨.reportOut, 0⟩,
      nack0 := false } from rfl, EpCtrl.ready]
    simp only [EpCtrl.complete, htype, hstall]
    rfl
  · have hcnt : (s₁.epCtrl 4).cnt = 64 := by
      show bytes.length.toUInt16 = 64
      rw [hlen]
      rfl
    rw [Keeps, if_pos hcnt] at hkeeps
    obtain ⟨rfl, hbuf⟩ := hkeeps
    have hmessage : (s₁.rearm [] buf true).inbox.message = some (buf.toList.take 64) := rfl
    rw [hmessage, hbuf, inbox, show s₁.msgReady = s.msgReady from rfl,
      show s₁.reportOut = v from rfl, show s₁.hidRevcBuf = s.hidRevcBuf from rfl, htake]
    cases s.msgReady <;> rfl

theorem run_reports {reports : List (List UInt8)} (hlen : ∀ r ∈ reports, r.length = 64) :
    ∀ {s : Usb}, s.Valid d → s.Calm → (s.epCtrl 4).ready = true →
      ∃ s', step.run s (reports.flatMap fun r => [.outToken 2 r, .trncompl]) =
          some (s', reports.map (.received 2)) ∧
        s'.inbox.message = s.inbox.message.or reports.head? := by
  induction reports with
  | nil => exact fun {s} _ _ _ => ⟨s, rfl, (Option.or_none ..).symm⟩
  | cons r reports ih =>
    intro s h hcalm hready
    obtain ⟨s₁, hrun₁, hvalid₁, hcalm₁, hready₁, hkept₁⟩ :=
      report_taken h hcalm hready (hlen r List.mem_cons_self)
    obtain ⟨s₂, hrun₂, hkept₂⟩ :=
      ih (fun q hq => hlen q (List.mem_cons_of_mem r hq)) hvalid₁ hcalm₁ hready₁
    refine ⟨s₂, step.run_append hrun₁ hrun₂, ?_⟩
    rw [hkept₂, hkept₁, Option.or_assoc]
    rfl

/-- Once the endpoint waits for a report, however many the host sends they all come in, and the
application keeps the first unless it has one. -/
theorem reports_taken {es : List UsbEvent} {out : List UsbOutput}
    (h : step.run .start es = some (s, out)) (hcalm : s.Calm) (hready : (s.epCtrl 4).ready = true)
    {reports : List (List UInt8)} (hlen : ∀ r ∈ reports, r.length = 64) :
    ∃ s', step.run s (reports.flatMap fun r => [.outToken 2 r, .trncompl]) =
        some (s', reports.map (.received 2)) ∧
      s'.inbox.message = s.inbox.message.or reports.head? := by
  obtain ⟨d, -, hvalid⟩ := valid_of_run h
  exact run_reports hlen hvalid hcalm hready

theorem reports_taken_configured :
    ∃ s out s', step.run .start [.reset, .setup [0, 5, 7, 0, 0, 0, 0, 0], .trncompl, .inToken 0,
        .trncompl, .setup [0, 9, 1, 0, 0, 0, 0, 0], .trncompl, .inToken 0, .trncompl] =
          some (s, out) ∧
      step.run s [.outToken 2 (List.replicate 64 1), .trncompl, .outToken 2 (List.replicate 64 2),
        .trncompl] =
          some (s', [.received 2 (List.replicate 64 1), .received 2 (List.replicate 64 2)]) ∧
      s'.inbox.message = some (List.replicate 64 1) := by
  have hstate : (step.run .start [.reset, .setup [0, 5, 7, 0, 0, 0, 0, 0], .trncompl, .inToken 0,
      .trncompl, .setup [0, 9, 1, 0, 0, 0, 0, 0], .trncompl, .inToken 0, .trncompl]).map
        (fun p => (p.1.tcFifo, (p.1.epCtrl 0).type, (p.1.epCtrl 4).ready, p.1.inbox.message)) =
      some ([], .control, true, none) := by decide +kernel
  obtain ⟨⟨s, out⟩, hrun, heq⟩ := Option.map_eq_some_iff.1 hstate
  obtain ⟨hfifo, htype, hready, hnone⟩ : s.tcFifo = [] ∧ (s.epCtrl 0).type = .control ∧
      (s.epCtrl 4).ready = true ∧ s.inbox.message = none := by simpa using heq
  obtain ⟨s', hrun', hkept⟩ := @reports_taken s _ out hrun ⟨hfifo, htype⟩ hready
    [List.replicate 64 1, List.replicate 64 2] (by simp)
  rw [hnone] at hkept
  exact ⟨s, out, s', hrun, hrun', hkept⟩

/-! ## Sessions -/

end Usb

end PowerMeterDisplay

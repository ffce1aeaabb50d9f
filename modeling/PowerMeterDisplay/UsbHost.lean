import PowerMeterDisplay.UsbRun

/-!
# What both ends can rely on

Whatever the host and the application do and in whatever order the interrupts come, the requests
that are decoded are those of the SETUP packets and the reports that are sent are those of the
application, each at most once and in order and only through an endpoint that is in use, and a host
that reads gets the reply of the tables.  These are facts about the device, which the stack refines.
The application in turn keeps a whole report of the host, and no other takes its place.
-/

namespace PowerMeterDisplay

namespace UsbOutput

/-- The request of a SETUP packet. -/
def request : UsbOutput → Option UsbSetupReq
  | setup packet => UsbSetupReq.ofPacket packet
  | _ => none

def decodedRequest : UsbOutput → Option UsbSetupReq
  | decoded r _ => some r
  | _ => none

/-- The data that the host has taken of an endpoint. -/
def sentData (n : Fin 3) : UsbOutput → Option (List UInt8)
  | sent m bytes => if m = n then some bytes else none
  | _ => none

/-- The endpoint of the interface that a report has gone through. -/
def reportEndpoint : UsbOutput → Option (Fin 4)
  | sent 1 _ => some 1
  | received 2 _ => some 2
  | _ => none

def queuedReport : UsbOutput → Option (List UInt8)
  | queued report => some report.toList
  | _ => none

/-- Whether a request under way is dropped. -/
def dropsRequest : UsbOutput → Bool
  | setup _ | reset => true
  | _ => false

end UsbOutput

namespace HidDevice

variable {d d' : HidDevice} {r : UsbSetupReq} {x : UsbOutput} {o : List Empty}

/-! ## What may go over the bus -/

/-- The steps of the device, one for each way through `next`. -/
inductive Next (d : HidDevice) : UsbOutput → HidDevice → Prop
  | setup (packet : List UInt8) : Next d (.setup packet) { d with stage := .asked packet }
  | sentReply {p : List UInt8} {ps : List (List UInt8)} {acks : ℕ}
      (hstage : d.stage = .reply (p :: ps) acks) :
      Next d (.sent 0 p) { d with stage := .reply ps acks }
  | sentStatus (hstage : d.stage = .status) : Next d (.sent 0 []) d
  | sentReport {report : Vector UInt8 64} (hreport : d.report = some report) :
      Next d (.sent 1 report.toList) { d with report := none }
  | receivedAck {ps : List (List UInt8)} {acks : ℕ} (hstage : d.stage = .reply ps acks)
      (bytes : List UInt8) : Next d (.received 0 bytes) { d with stage := .reply ps (acks + 1) }
  | receivedData (hstage : d.stage = .status) (bytes : List UInt8) : Next d (.received 0 bytes) d
  | receivedReport (hon : d.on = true) (hhalted : d.halted 2 = false) (bytes : List UInt8) :
      Next d (.received 2 bytes) d
  | decoded {packet : List UInt8} {r : UsbSetupReq} (hstage : d.stage = .asked packet)
      (hr : UsbSetupReq.ofPacket packet = some r) :
      Next d (.decoded r (d.decode r).2) (d.decode r).1
  | queued (hon : d.on = true) (hhalted : d.halted 1 = false) (hreport : d.report = none)
      (report : Vector UInt8 64) :
      Next d (.queued report) { d with report := report }
  | reset : Next d .reset { d.unconfigure with address := 0, stage := d.stage.reset }

theorem next_of_eq_some (h : d.next x = some d') : d.Next x d' := by
  cases x with
  | setup packet =>
    obtain ⟨-, hd⟩ := Option.ite_none_right_eq_some.1 h
    cases hd
    exact .setup packet
  | decoded r ok =>
    simp only [next] at h
    cases hstage : d.stage <;> rw [hstage] at h
    case asked packet =>
      obtain ⟨⟨hr, rfl⟩, hd⟩ := Option.ite_none_right_eq_some.1 h
      cases hd
      exact .decoded hstage hr
    all_goals cases h
  | queued report =>
    obtain ⟨⟨hon, hhalted, hreport⟩, hd⟩ := Option.ite_none_right_eq_some.1 h
    cases hd
    exact .queued hon hhalted hreport report
  | reset =>
    cases h
    exact .reset
  | sent n bytes =>
    fin_cases n
    · simp only [next] at h
      split at h
      next hstage =>
        obtain ⟨rfl, hd⟩ := Option.ite_none_right_eq_some.1 h
        cases hd
        exact .sentReply hstage
      next hstage =>
        obtain ⟨rfl, hd⟩ := Option.ite_none_right_eq_some.1 h
        cases hd
        exact .sentStatus hstage
      all_goals cases h
    · obtain ⟨hreport, hd⟩ := Option.ite_none_right_eq_some.1 h
      obtain ⟨report, hreport', rfl⟩ := Option.map_eq_some_iff.1 hreport
      cases hd
      exact .sentReport hreport'
    · cases h
  | received n bytes =>
    fin_cases n
    · obtain ⟨-, h⟩ := Option.ite_none_left_eq_some.1 h
      cases hstage : d.stage <;> rw [hstage] at h
      case reply ps acks =>
        cases h
        exact .receivedAck hstage bytes
      case status =>
        cases h
        exact .receivedData hstage bytes
      all_goals cases h
    · cases h
    · obtain ⟨⟨hon, hhalted, -⟩, hd⟩ := Option.ite_none_right_eq_some.1 h
      cases hd
      exact .receivedReport hon hhalted bytes

theorem next_of_step (h : step d x = some (d', o)) : d.Next x d' := by
  obtain ⟨d'', hnext, heq⟩ := Option.map_eq_some_iff.1 h
  obtain ⟨rfl, -⟩ := Prod.mk.inj heq
  exact next_of_eq_some hnext

/-! ## Requests -/

/-- The request that is still to be decoded. -/
def askedRequest (d : HidDevice) : Option UsbSetupReq :=
  match d.stage with
  | .asked packet => UsbSetupReq.ofPacket packet
  | .idle | .reply _ _ | .status => none

theorem askedRequest_of_stage {packet : List UInt8} (h : d.stage = .asked packet) :
    d.askedRequest = UsbSetupReq.ofPacket packet := by
  rw [askedRequest, h]

theorem askedRequest_decode : (d.decode r).1.askedRequest = none := by
  rw [decode]
  split_ifs
  · split <;> rfl
  · rfl
  · rfl

theorem Next.asked_of_decoded (h : d.Next x d') (hr : x.decodedRequest = some r) :
    d.askedRequest = some r := by
  cases h with
  | decoded hstage hr' =>
    cases hr
    rw [askedRequest_of_stage hstage, hr']
  | _ => cases hr

theorem Next.askedRequest (h : d.Next x d') (hr : d'.askedRequest = some r) :
    x.request = some r ∨ x.decodedRequest = none ∧ d.askedRequest = some r := by
  cases h with
  | setup packet => exact .inl hr
  | decoded hstage hr' =>
    rw [askedRequest_decode] at hr
    cases hr
  | sentReply hstage | receivedAck hstage bytes => cases hr
  | reset =>
    refine .inr ⟨rfl, ?_⟩
    rw [HidDevice.askedRequest] at hr ⊢
    cases hstage : d.stage <;> rw [hstage] at hr
    case asked packet => exact hr
    all_goals cases hr
  | _ => exact .inr ⟨rfl, hr⟩

/-! ## Reports -/

/-- A step neither makes nor changes a report. -/
def KeepsReport (d d' : HidDevice) : Prop := d'.report = d.report ∨ d'.report = none

theorem keepsReport_unconfigure : d.KeepsReport d.unconfigure := by
  rw [unconfigure]
  split_ifs
  · exact .inl rfl
  · exact .inr rfl

theorem keepsReport_setConfiguration (configuration : UInt8) :
    d.KeepsReport (d.setConfiguration configuration) := by
  rw [setConfiguration]
  split_ifs
  · exact keepsReport_unconfigure
  · exact .inr rfl

theorem keepsReport_setHalted (j : Option (Fin 4)) (halt : Bool) :
    d.KeepsReport ((j.map fun j => d.setHalted j halt).getD d) := by
  cases j with
  | none => exact .inl rfl
  | some j => exact ite_eq_or_eq .. |>.symm

theorem keepsReport_accept : d.KeepsReport (d.accept r).1 := by
  rw [accept, standardAccept, hidAccept]
  split_ifs
  all_goals first
    | exact .inl rfl
    | exact .inr rfl
    | exact keepsReport_setConfiguration _
    | exact keepsReport_setHalted _ _

theorem keepsReport_decode : d.KeepsReport (d.decode r).1 := by
  rw [decode]
  split_ifs
  · split <;> exact .inl rfl
  · exact keepsReport_accept
  · exact keepsReport_accept

theorem Next.report_of_sent {report : List UInt8} (h : d.Next x d')
    (hreport : x.sentData 1 = some report) : d.report.map Vector.toList = some report := by
  cases h with
  | sentReport hslot => rw [hslot, Option.map_some, ← hreport]; rfl
  | _ => cases hreport

theorem KeepsReport.slot {report : List UInt8} (h : d.KeepsReport d')
    (hreport : d'.report.map Vector.toList = some report) :
    d.report.map Vector.toList = some report := by
  obtain heq | hnone := h
  · rwa [← heq]
  · rw [hnone] at hreport
    cases hreport

theorem Next.report {report : List UInt8} (h : d.Next x d')
    (hreport : d'.report.map Vector.toList = some report) :
    x.queuedReport = some report ∨
      x.sentData 1 = none ∧ d.report.map Vector.toList = some report := by
  cases h with
  | queued hon hhalted hnone report => exact .inl hreport
  | sentReport hslot => cases hreport
  | decoded hstage hr => exact .inr ⟨rfl, keepsReport_decode.slot hreport⟩
  | reset =>
    exact .inr ⟨rfl, KeepsReport.slot (keepsReport_unconfigure (d := d)) hreport⟩
  | _ => exact .inr ⟨rfl, hreport⟩

/-! ## The configuration -/

/-- The interface is on only in a configuration, and a report is under way only while the interface
is on and its endpoint is not halted. -/
structure Coherent (d : HidDevice) : Prop where
  configured : d.on = true → d.configuration ≠ 0
  open_report : d.report ≠ none → d.on = true ∧ d.halted 1 = false

/-- A step that leaves the interface alone, but for a report that it may end. -/
theorem Coherent.congr (h : d.Coherent) (hconf : d'.configuration = d.configuration)
    (hon : d'.on = d.on) (hhalted : d'.halted = d.halted) (hreport : d.KeepsReport d') :
    d'.Coherent where
  configured hd := hconf ▸ h.configured (hon ▸ hd)
  open_report hd := by
    obtain hsame | hnone := hreport
    · rw [hon, hhalted]
      exact h.open_report (hsame ▸ hd)
    · exact absurd hnone hd

theorem coherent_switchOff : d.switchOff.Coherent :=
  ⟨fun hd => absurd hd Bool.false_ne_true, fun hd => absurd rfl hd⟩

theorem coherent_switchOn (hconf : d.configuration ≠ 0) : d.switchOn.Coherent :=
  ⟨fun _ => hconf, fun hd => absurd rfl hd⟩

theorem Coherent.unconfigure (h : d.Coherent) : d.unconfigure.Coherent := by
  rw [HidDevice.unconfigure]
  split_ifs
  · exact h
  · exact ⟨fun hd => absurd hd Bool.false_ne_true, fun hd => absurd rfl hd⟩

theorem Coherent.setConfiguration (h : d.Coherent) (configuration : UInt8) :
    (d.setConfiguration configuration).Coherent := by
  rw [HidDevice.setConfiguration]
  split_ifs with hzero
  · exact h.unconfigure
  · exact ⟨fun _ => hzero, fun hd => absurd rfl hd⟩

theorem Coherent.setHalted (h : d.Coherent) (j : Option (Fin 4)) (halt : Bool) :
    ((j.map fun j => d.setHalted j halt).getD d).Coherent := by
  cases j with
  | none => exact h
  | some j =>
    refine ⟨h.configured, fun hd => ?_⟩
    have hreport : ¬ (halt = true ∧ j = 1) := fun hboth => hd (if_pos hboth)
    obtain ⟨hon, hhalted⟩ := h.open_report fun hnone => hd ((if_neg hreport).trans hnone)
    refine ⟨hon, ?_⟩
    show Function.update d.halted j halt 1 = false
    rcases eq_or_ne j 1 with rfl | hj
    · rw [Function.update_self]
      exact Bool.eq_false_iff.2 fun hhalt => hreport ⟨hhalt, rfl⟩
    · rw [Function.update_of_ne hj.symm]
      exact hhalted

theorem Coherent.accept (h : d.Coherent) : (d.accept r).1.Coherent := by
  rw [HidDevice.accept, standardAccept, hidAccept]
  split_ifs with _ _ _ _ _ _ _ hinterface
  all_goals first
    | exact h
    | exact h.congr rfl rfl rfl (.inl rfl)
    | exact h.setConfiguration _
    | exact coherent_switchOn hinterface.2.1
    | exact coherent_switchOff
    | exact h.setHalted _ _

theorem Next.coherent (hnext : d.Next x d') (h : d.Coherent) : d'.Coherent := by
  cases hnext with
  | sentReport hreport => exact h.congr rfl rfl rfl (.inr rfl)
  | queued hon hhalted hnone report =>
    exact ⟨h.configured, fun _ => ⟨hon, hhalted⟩⟩
  | reset => exact h.unconfigure.congr rfl rfl rfl (.inl rfl)
  | decoded hstage hr =>
    rw [decode]
    split_ifs
    · split <;> exact h.congr rfl rfl rfl (.inl rfl)
    · exact h.accept.congr rfl rfl rfl (.inl rfl)
    · exact h.accept.congr rfl rfl rfl (.inl rfl)
  | sentStatus hstage | receivedData hstage bytes | receivedReport hon hhalted bytes => exact h
  | _ => exact h.congr rfl rfl rfl (.inl rfl)

theorem coherent_of_run {out : List UsbOutput} (h : step.run .start out = some (d, o)) :
    d.Coherent := by
  refine step.run_history (P := fun _ d _ => d.Coherent)
    ⟨fun hd => absurd hd Bool.false_ne_true, fun hd => absurd rfl hd⟩ ?_ h
  intro _ _ _ _ _ _ hd hstep
  exact (next_of_step hstep).coherent hd

/-! ## Replies -/

theorem Next.reply_of_decoded (h : d.Next (.decoded r true) d') (hin : r.isIn = true) :
    ∃ bytes, d.reply r = some bytes ∧
      d'.stage = .reply (Transfer.packets 8 r.wLength.toNat bytes) 0 := by
  generalize hx : UsbOutput.decoded r true = x at h
  cases h with
  | decoded hstage hr =>
    obtain ⟨rfl, hok⟩ := UsbOutput.decoded.inj hx
    rw [decode, if_pos hin] at hok ⊢
    cases hreply : d.reply r with
    | none =>
      rw [hreply] at hok
      cases hok
    | some bytes => exact ⟨bytes, rfl, rfl⟩
  | _ => cases hx

/-- While no request is dropped, what the host has taken of a reply and what is still there make up
the reply. -/
theorem taken_append_left {d : HidDevice} {packets : List (List UInt8)} {acks : ℕ}
    (hstage : d.stage = .reply packets acks) {out : List UsbOutput}
    (hdrops : ∀ x ∈ out, x.dropsRequest = false) {o : List Empty}
    (h : step.run d out = some (d', o)) :
    ∃ left acks', d'.stage = .reply left acks' ∧
      out.filterMap (UsbOutput.sentData 0) ++ left = packets := by
  induction out generalizing d packets acks o with
  | nil =>
    obtain ⟨rfl, -⟩ := Prod.mk.inj (Option.some.inj h)
    exact ⟨packets, acks, hstage, rfl⟩
  | cons x out ih =>
    obtain ⟨d₁, o₁, o₂, hstep, hrun, -⟩ := step.run_cons_eq_some_iff.1 h
    have hdrops' := fun y hy => hdrops y (List.mem_cons_of_mem x hy)
    have hkeep := hdrops x List.mem_cons_self
    cases next_of_step hstep with
    | setup packet | reset => cases hkeep
    | sentReply hreply =>
      obtain ⟨rfl, rfl⟩ := Stage.reply.inj (hstage.symm.trans hreply)
      obtain ⟨left, acks', hleft, hsent⟩ := ih rfl hdrops' hrun
      exact ⟨left, acks', hleft, congrArg (_ :: ·) hsent⟩
    | receivedAck hreply bytes =>
      obtain ⟨rfl, rfl⟩ := Stage.reply.inj (hstage.symm.trans hreply)
      exact ih rfl hdrops' hrun
    | sentStatus hstatus | receivedData hstatus bytes => cases hstage.symm.trans hstatus
    | decoded hasked hr => cases hstage.symm.trans hasked
    | sentReport hreport => exact ih (d := { d with report := none }) hstage hdrops' hrun
    | queued hon hhalted hreport report =>
      exact ih (d := { d with report := report }) hstage hdrops' hrun
    | receivedReport hon hhalted bytes => exact ih hstage hdrops' hrun

end HidDevice

namespace Usb

variable {s : Usb} {es : List UsbEvent} {out : List UsbOutput}

/-- In every run the requests that are decoded are requests of SETUP packets, in this order and each
at most once. -/
theorem requests_in_order (h : step.run .start es = some (s, out)) :
    (out.filterMap UsbOutput.decodedRequest).Sublist (out.filterMap UsbOutput.request) := by
  obtain ⟨d, hrun, -⟩ := valid_of_run h
  exact HidDevice.step.taken_sublist_put
    (fun _ _ _ _ hstep _ hr => (HidDevice.next_of_step hstep).asked_of_decoded hr)
    (fun _ _ _ _ hstep _ hr => (HidDevice.next_of_step hstep).askedRequest hr) rfl hrun

theorem requests_in_order_getStatus :
    ([⟨0x80, 8, 0, 0, 1⟩] : List UsbSetupReq).Sublist [⟨0x80, 0, 0, 0, 2⟩, ⟨0x80, 8, 0, 0, 1⟩] := by
  have hout : (step.run .start [.reset, .setup [0x80, 0, 0, 0, 0, 0, 2, 0],
      .setup [0x80, 8, 0, 0, 0, 0, 1, 0], .trncompl, .inToken 0]).map Prod.snd =
        some [.reset, .setup [0x80, 0, 0, 0, 0, 0, 2, 0], .setup [0x80, 8, 0, 0, 0, 0, 1, 0],
          .decoded ⟨0x80, 8, 0, 0, 1⟩ true, .sent 0 [0]] := by decide +kernel
  obtain ⟨⟨s, out⟩, hrun, rfl⟩ := Option.map_eq_some_iff.1 hout
  exact requests_in_order hrun

/-- In every run the reports that the host has taken are reports of the application, in this order
and each at most once. -/
theorem reports_in_order (h : step.run .start es = some (s, out)) :
    (out.filterMap (UsbOutput.sentData 1)).Sublist (out.filterMap UsbOutput.queuedReport) := by
  obtain ⟨d, hrun, -⟩ := valid_of_run h
  exact HidDevice.step.taken_sublist_put
    (fun _ _ _ _ hstep _ hr => (HidDevice.next_of_step hstep).report_of_sent hr)
    (fun _ _ _ _ hstep _ hr => (HidDevice.next_of_step hstep).report hr) rfl hrun

theorem reports_in_order_replicate :
    ([List.replicate 64 1] : List (List UInt8)).Sublist [List.replicate 64 1] := by
  have hout : (step.run .start [.reset, .setup [0, 5, 7, 0, 0, 0, 0, 0], .trncompl, .inToken 0,
      .trncompl, .setup [0, 9, 1, 0, 0, 0, 0, 0], .trncompl, .sendReportIn (Vector.replicate 64 1),
      .inToken 1]).map Prod.snd =
        some [.reset, .setup [0, 5, 7, 0, 0, 0, 0, 0], .decoded ⟨0, 5, 7, 0, 0⟩ true, .sent 0 [],
          .setup [0, 9, 1, 0, 0, 0, 0, 0], .decoded ⟨0, 9, 1, 0, 0⟩ true,
          .queued (Vector.replicate 64 1), .sent 1 (List.replicate 64 1)] := by decide +kernel
  obtain ⟨⟨s, out⟩, hrun, rfl⟩ := Option.map_eq_some_iff.1 hout
  exact reports_in_order hrun

/-- In every run a report goes over the bus only while the device is configured, its interface is on
and the endpoint is not halted. -/
theorem report_configured {pre post : List UsbOutput} {x : UsbOutput} {j : Fin 4}
    (h : step.run .start es = some (s, pre ++ x :: post)) (hx : x.reportEndpoint = some j) :
    ∃ d, HidDevice.step.run .start pre = some (d, []) ∧ d.configuration ≠ 0 ∧ d.on = true ∧
      d.halted j = false := by
  obtain ⟨d, hrun, -⟩ := valid_of_run h
  obtain ⟨d₁, o₁, o₂, hpre, hpost, ho⟩ := HidDevice.step.run_append_eq_some_iff.1 hrun
  obtain ⟨rfl, rfl⟩ := List.append_eq_nil_iff.1 ho.symm
  obtain ⟨d₂, o₃, o₄, hstep, -, -⟩ := HidDevice.step.run_cons_eq_some_iff.1 hpost
  have hcoherent := HidDevice.coherent_of_run hpre
  refine ⟨d₁, hpre, ?_⟩
  cases HidDevice.next_of_step hstep with
  | sentReport hreport =>
    obtain rfl := Option.some.inj hx
    obtain ⟨hon, hhalted⟩ := hcoherent.open_report fun hnone => by
      rw [hnone] at hreport
      cases hreport
    exact ⟨hcoherent.configured hon, hon, hhalted⟩
  | receivedReport hon hhalted bytes =>
    obtain rfl := Option.some.inj hx
    exact ⟨hcoherent.configured hon, hon, hhalted⟩
  | _ => cases hx

theorem report_configured_replicate :
    ∃ d, HidDevice.step.run .start [.reset, .setup [0, 5, 7, 0, 0, 0, 0, 0],
        .decoded ⟨0, 5, 7, 0, 0⟩ true, .sent 0 [], .setup [0, 9, 1, 0, 0, 0, 0, 0],
        .decoded ⟨0, 9, 1, 0, 0⟩ true, .queued (Vector.replicate 64 1)] = some (d, []) ∧
      d.configuration ≠ 0 ∧ d.on = true ∧ d.halted 1 = false := by
  have hout : (step.run .start [.reset, .setup [0, 5, 7, 0, 0, 0, 0, 0], .trncompl, .inToken 0,
      .trncompl, .setup [0, 9, 1, 0, 0, 0, 0, 0], .trncompl, .sendReportIn (Vector.replicate 64 1),
      .inToken 1]).map Prod.snd =
        some ([.reset, .setup [0, 5, 7, 0, 0, 0, 0, 0], .decoded ⟨0, 5, 7, 0, 0⟩ true, .sent 0 [],
          .setup [0, 9, 1, 0, 0, 0, 0, 0], .decoded ⟨0, 9, 1, 0, 0⟩ true,
          .queued (Vector.replicate 64 1)] ++ .sent 1 (List.replicate 64 1) :: []) := by
    decide +kernel
  obtain ⟨⟨s, out⟩, hrun, rfl⟩ := Option.map_eq_some_iff.1 hout
  exact report_configured hrun rfl

/-- A host that reads to the end, with no request or reset in between, gets the reply of the device
at the time of the request, and nothing is left behind it. -/
theorem read_delivers {pre post : List UsbOutput} {r : UsbSetupReq} {bytes : List UInt8}
    {rest : List (List UInt8)}
    (h : step.run .start es = some (s, pre ++ .decoded r true :: post)) (hin : r.isIn = true)
    (hdrops : ∀ x ∈ post, x.dropsRequest = false)
    (hread : Transfer.receive 8 r.wLength.toNat (post.filterMap (UsbOutput.sentData 0)) =
      some (bytes, rest)) :
    ∃ d, HidDevice.step.run .start pre = some (d, []) ∧ d.reply r = some bytes ∧ rest = [] := by
  obtain ⟨d, hrun, -⟩ := valid_of_run h
  obtain ⟨d₁, o₁, o₂, hpre, hpost, ho⟩ := HidDevice.step.run_append_eq_some_iff.1 hrun
  obtain ⟨rfl, rfl⟩ := List.append_eq_nil_iff.1 ho.symm
  obtain ⟨d₂, o₃, o₄, hstep, hpost, -⟩ := HidDevice.step.run_cons_eq_some_iff.1 hpost
  obtain ⟨reply, hreply, hstage⟩ := (HidDevice.next_of_step hstep).reply_of_decoded hin
  obtain ⟨left, acks, -, hsent⟩ := HidDevice.taken_append_left hstage hdrops hpost
  obtain ⟨-, -, hlen⟩ := HidDevice.reply_bounds hreply
  obtain ⟨rfl, -, hrest⟩ := Transfer.receive_of_prefix (by decide) hlen ⟨left, hsent⟩ hread
  exact ⟨d₁, hpre, hreply, hrest⟩

/-- The descriptor of the device, in three packets. -/
theorem read_delivers_deviceDescriptor :
    ∃ d, HidDevice.step.run .start [.reset, .setup [0x80, 6, 0, 1, 0, 0, 64, 0]] = some (d, []) ∧
      d.reply ⟨0x80, 6, 0x100, 0, 64⟩ = some udcDeviceDesc ∧ ([] : List (List UInt8)) = [] := by
  have hout : (step.run .start [.reset, .setup [0x80, 6, 0, 1, 0, 0, 64, 0], .trncompl,
      .inToken 0, .trncompl, .inToken 0, .trncompl, .inToken 0]).map Prod.snd =
        some ([.reset, .setup [0x80, 6, 0, 1, 0, 0, 64, 0]] ++
          .decoded ⟨0x80, 6, 0x100, 0, 64⟩ true :: [.sent 0 (udcDeviceDesc.take 8),
            .sent 0 ((udcDeviceDesc.drop 8).take 8), .sent 0 (udcDeviceDesc.drop 16)]) := by
    decide +kernel
  obtain ⟨⟨s, out⟩, hrun, rfl⟩ := Option.map_eq_some_iff.1 hout
  exact read_delivers hrun rfl (by decide) (by decide +kernel)

/-! ## Reports of the host -/

/-- What is pending or kept has come in, and what is kept is a whole report. -/
theorem inbox_of_run (h : step.run .start es = some (s, out)) :
    (∀ bytes ∈ s.inbox.pending, .received 2 bytes ∈ out) ∧
      ∀ bytes ∈ s.inbox.message, bytes.length = 64 ∧ .received 2 bytes ∈ out := by
  refine (step.run_history (P := fun _ s out => (∃ d, s.Valid d) ∧
    (∀ bytes ∈ s.inbox.pending, .received 2 bytes ∈ out) ∧
      ∀ bytes ∈ s.inbox.message, bytes.length = 64 ∧ .received 2 bytes ∈ out)
    ⟨⟨.start, start_valid⟩, nofun, nofun⟩ ?_ h).2
  rintro es s out e s' out' ⟨⟨d, hvalid⟩, hpending, hmessage⟩ hstep
  obtain ⟨d', -, hvalid', hpass⟩ := valid_of_step hvalid hstep
  refine ⟨⟨d', hvalid'⟩, fun bytes hb => ?_, fun bytes hb => ?_⟩
  · obtain hold | hnew := hpass.pending bytes hb
    · exact List.mem_append_left _ (hpending bytes hold)
    · exact List.mem_append_right _ hnew
  · obtain hsame | ⟨-, report, hreport, hlen, hkept⟩ := hpass.message
    · rw [hsame] at hb
      exact ⟨(hmessage bytes hb).1, List.mem_append_left _ (hmessage bytes hb).2⟩
    · obtain rfl := Option.some.inj (hkept.symm.trans hb)
      exact ⟨hlen, List.mem_append_left _ (hpending report hreport)⟩

/-- What the application keeps is a whole report that has come in, and it keeps it whatever the host
does then. -/
theorem message_kept {fs : List UsbEvent} {out' : List UsbOutput} {s' : Usb} {bytes : List UInt8}
    (h : step.run .start es = some (s, out)) (h' : step.run s fs = some (s', out'))
    (hkept : s.inbox.message = some bytes) :
    bytes.length = 64 ∧ .received 2 bytes ∈ out ∧ s'.inbox.message = some bytes := by
  obtain ⟨d, -, hvalid⟩ := valid_of_run h
  obtain ⟨hlen, hmem⟩ := (inbox_of_run h).2 bytes hkept
  refine ⟨hlen, hmem, ?_⟩
  refine (step.run_history (P := fun _ s _ => (∃ d, s.Valid d) ∧ s.inbox.message = some bytes)
    ⟨⟨d, hvalid⟩, hkept⟩ ?_ h').2
  rintro es s out e s' out' ⟨⟨d, hvalid⟩, hkept⟩ hstep
  obtain ⟨d', -, hvalid', hpass⟩ := valid_of_step hvalid hstep
  obtain hsame | ⟨hnone, -⟩ := hpass.message
  · exact ⟨⟨d', hvalid'⟩, hsame.trans hkept⟩
  · cases hnone.symm.trans hkept

theorem message_kept_replicate :
    ∃ s s' out, step.run .start [.reset, .setup [0, 5, 7, 0, 0, 0, 0, 0], .trncompl, .inToken 0,
        .trncompl, .setup [0, 9, 1, 0, 0, 0, 0, 0], .trncompl, .outToken 2 (List.replicate 64 1),
        .trncompl] = some (s, out) ∧
      step.run s [.reset] = some (s', [.reset]) ∧ (List.replicate 64 (1 : UInt8)).length = 64 ∧
      .received 2 (List.replicate 64 1) ∈ out ∧ s'.inbox.message = some (List.replicate 64 1) := by
  have hstate : (step.run .start [.reset, .setup [0, 5, 7, 0, 0, 0, 0, 0], .trncompl, .inToken 0,
      .trncompl, .setup [0, 9, 1, 0, 0, 0, 0, 0], .trncompl, .outToken 2 (List.replicate 64 1),
      .trncompl]).map (fun p => p.1.inbox.message) = some (some (List.replicate 64 1)) := by
    decide +kernel
  obtain ⟨⟨s, out⟩, hrun, hmessage⟩ := Option.map_eq_some_iff.1 hstate
  obtain ⟨d, -, hvalid⟩ := valid_of_run hrun
  have hreset := step.run_singleton (step_reset hvalid.served)
  exact ⟨s, _, out, hrun, hreset, message_kept hrun hreset hmessage⟩

end Usb

end PowerMeterDisplay

import PowerMeterDisplay.UsbSpec

/-!
# The endpoints of the interface

What their entries in the tables have to do with each other, with the configuration and with what
the application knows of them (`Settled`), and that this survives whatever is done to an endpoint.
-/

namespace PowerMeterDisplay

namespace Usb

/-! ## The endpoints of the interface -/

/-- The IN endpoint: it offers data only for a job, and a job or a note of the hardware that is
still to be read is about one whole report. -/
structure InEp (c : EpCtrl) (job : EpJob) (on free : Bool) : Prop where
  type_eq : c.type = if on then .bulk else .disable
  size_eq : on = true → c.size = 64
  free_eq : on = true → free = !job.busy
  busy : job.busy = true → on = true ∧ c.stall = false ∧ c.nack0 = c.trncompl0 ∧
    job.callTrans = some .reportInSent
  nack0 : on = true → job.busy = false → c.nack0 = true
  loaded : job.busy = true ∨ c.trncompl0 = true → job.bShortpacket = false ∧ job.bufSize = 64 ∧
    job.nbTrans = 0 ∧ c.cnt = 64 ∧ c.dataptr = ⟨.reportIn, 0⟩
  sent : c.trncompl0 = true → c.auxdata = 64

/-- The OUT endpoint: it takes data only for a job. -/
structure OutEp (c : EpCtrl) (job : EpJob) (on : Bool) : Prop where
  type_eq : c.type = if on then .bulk else .disable
  size_eq : on = true → c.size = 64
  busy : job.busy = true → on = true ∧ c.stall = false ∧ c.nack0 = c.trncompl0 ∧
    job.callTrans = some .reportOutReceived
  nack0 : on = true → job.busy = false → c.nack0 = true
  loaded : job.busy = true ∨ c.trncompl0 = true → job.bUseOutCacheBuffer = false ∧
    job.bufSize = 64 ∧ job.nbTrans = 0 ∧ c.auxdata = 64 ∧ c.cnt ≤ 64 ∧ c.dataptr = ⟨.reportOut, 0⟩

/-- An endpoint that the interface does not use. -/
structure Unused (c : EpCtrl) (job : EpJob) : Prop where
  type_eq : c.type = .disable
  trncompl0 : c.trncompl0 = false
  busy : job.busy = false

/-- The endpoints, and what `udc.c` and the application know of them. -/
structure Bulk (epCtrl : Fin 6 → EpCtrl) (epJob : Fin 4 → EpJob) (on free : Bool)
    (numConfiguration : UInt8) (ptrConf : Option (List UInt8)) : Prop where
  configured : numConfiguration = 0 ∧ on = false ∨
    numConfiguration = 1 ∧ ptrConf = some udcDesc
  inEp : InEp (epCtrl 3) (epJob 1) on free
  outEp : OutEp (epCtrl 4) (epJob 2) on
  unused₁ : Unused (epCtrl 2) (epJob 0)
  unused₂ : Unused (epCtrl 5) (epJob 3)

def Settled (s : Usb) : Prop :=
  Bulk s.epCtrl s.epJob s.mainBGenericEnable s.bReportInFree s.udcNumConfiguration s.udcPtrConf

variable {c : EpCtrl} {job : EpJob} {on free : Bool}

theorem InEp.abort (h : InEp c job on free) :
    InEp { c with nack0 := true } { job with busy := false } on
      (free || job.busy && decide (job.callTrans = some .reportInSent)) where
  type_eq := h.type_eq
  size_eq := h.size_eq
  free_eq hen := by
    cases hbusy : job.busy with
    | false => simp [h.free_eq hen, hbusy]
    | true => simp [(h.busy hbusy).2.2.2]
  busy := nofun
  nack0 _ _ := rfl
  loaded hl := h.loaded (hl.imp_left nofun)
  sent := h.sent

theorem InEp.release (h : InEp c job on free) (free' : Bool) :
    InEp { c with type := .disable, size := 8, stall := false, nack0 := true }
      { job with busy := false } false free' where
  type_eq := rfl
  size_eq := nofun
  free_eq := nofun
  busy := nofun
  nack0 := nofun
  loaded hl := h.loaded (hl.imp_left nofun)
  sent := h.sent

theorem OutEp.abort (h : OutEp c job on) :
    OutEp { c with nack0 := true } { job with busy := false } on where
  type_eq := h.type_eq
  size_eq := h.size_eq
  busy := nofun
  nack0 _ _ := rfl
  loaded hl := h.loaded (hl.imp_left nofun)

theorem OutEp.release (h : OutEp c job on) :
    OutEp { c with type := .disable, size := 8, stall := false, nack0 := true }
      { job with busy := false } false where
  type_eq := rfl
  size_eq := nofun
  busy := nofun
  nack0 := nofun
  loaded hl := h.loaded (hl.imp_left nofun)

variable {s : Usb}

theorem Settled.conf (h : s.Settled) (hnum : s.udcNumConfiguration ≠ 0) :
    s.udcPtrConf = some udcDesc := by
  obtain h0 | h1 := h.configured
  · exact absurd h0.1 hnum
  · exact h1.2

/-- Only the job of the IN endpoint ever calls back `udi_hid_generic_report_in_sent`. -/
theorem Settled.calls (h : s.Settled) {j : Fin 4} (hj : j ≠ 1) :
    ((s.epJob j).busy && decide ((s.epJob j).callTrans = some .reportInSent)) = false := by
  obtain ⟨-, -, hout, h₁, h₂⟩ := h
  match j with
  | 0 => simp [h₁.busy]
  | 1 => exact absurd rfl hj
  | 2 =>
    cases hbusy : (s.epJob 2).busy with
    | false => rfl
    | true => simp [(hout.busy hbusy).2.2.2]
  | 3 => simp [h₂.busy]

theorem Settled.abortEntry (h : s.Settled) (j : Fin 4) :
    (s.abortEntry (ctrlOf j) j).Settled := by
  rw [abortEntry_eq]
  have hcalls := h.calls (j := j)
  obtain ⟨hconf, hin, hout, h₁, h₂⟩ := h
  match j with
  | 0 =>
    rw [hcalls (by decide), Bool.or_false]
    exact ⟨hconf, hin, hout, ⟨h₁.type_eq, h₁.trncompl0, rfl⟩, h₂⟩
  | 1 => exact ⟨hconf, hin.abort, hout, h₁, h₂⟩
  | 2 =>
    rw [hcalls (by decide), Bool.or_false]
    exact ⟨hconf, hin, hout.abort, h₁, h₂⟩
  | 3 =>
    rw [hcalls (by decide), Bool.or_false]
    exact ⟨hconf, hin, hout, h₁, ⟨h₂.type_eq, h₂.trncompl0, rfl⟩⟩

theorem Settled.disabled (h : s.Settled) : s.disabled.Settled := by
  obtain ⟨hconf, hin, hout, h₁, h₂⟩ := h
  rw [Usb.disabled, freeEntry_eq, freeEntry_eq]
  refine ⟨hconf.imp (fun h => ⟨h.1, rfl⟩) id, hin.release _, hout.release, h₁, h₂⟩

theorem Settled.unconfigured (h : s.Settled) :
    s.unconfigured.Settled ∧ s.unconfigured.mainBGenericEnable = false := by
  rw [Usb.unconfigured]
  by_cases hnum : s.udcNumConfiguration = 0
  · rw [if_pos hnum]
    obtain ⟨hconf, hin, hout, h₁, h₂⟩ := h
    have hoff : s.mainBGenericEnable = false := by
      obtain h0 | h1 := hconf
      · exact h0.2
      · rw [h1.1] at hnum
        exact absurd hnum (by decide)
    exact ⟨⟨.inl ⟨rfl, hoff⟩, hin, hout, h₁, h₂⟩, hoff⟩
  · rw [if_neg hnum]
    obtain ⟨hconf, hin, hout, h₁, h₂⟩ := h.disabled
    exact ⟨⟨.inl ⟨rfl, rfl⟩, hin, hout, h₁, h₂⟩, rfl⟩

/-- An interface that is off can be switched on. -/
theorem Settled.enabled (h : s.Settled) (hnum : s.udcNumConfiguration = 1)
    (hconf : s.udcPtrConf = some udcDesc) (hoff : s.mainBGenericEnable = false) :
    udcIfaceEnable 0 0 s = some (s.enabled, true) ∧ s.enabled.Settled := by
  obtain ⟨-, hin, hout, h₁, h₂⟩ := h
  rw [hoff] at hin hout
  have hidle (hbusy : (s.epJob 1).busy = true) : False := nomatch (hin.busy hbusy).1
  have hidle' (hbusy : (s.epJob 2).busy = true) : False := nomatch (hout.busy hbusy).1
  refine ⟨udcIfaceEnable_eq (by rw [hnum]; decide) hconf hin.type_eq hout.type_eq
    (Bool.eq_false_iff.2 hidle'), .inr ⟨hnum, hconf⟩, ?_, ?_, h₁, h₂⟩
  · refine ⟨rfl, fun _ => rfl, fun _ => ?_, fun h => (hidle h).elim, fun _ _ => rfl, ?_, nofun⟩
    · exact (congrArg (! ·) (Bool.eq_false_iff.2 hidle)).symm
    · exact fun h => (h.elim hidle nofun).elim
  · exact ⟨rfl, fun _ => rfl, fun _ => ⟨rfl, rfl, rfl, rfl⟩, nofun,
      fun _ => ⟨rfl, rfl, rfl, rfl, (by decide : (0 : UInt16) ≤ 64), rfl⟩⟩

end Usb

end PowerMeterDisplay

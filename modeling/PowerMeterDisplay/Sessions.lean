import PowerMeterDisplay.Averages
import PowerMeterDisplay.Lib.Extreme

/-!
# The extremes of a session

A session of a record is the list of the samples taken in since its extremes were last reset.  In
every run of a channel the extremes and the peak record are running extremes over the session
(`extremes_of_run`), so that a session with a sample has its exact minimum and maximum
(`extremes_of_session`).  A scale frame that changes the setting ends the averaging window and the
session, so samples of different settings never meet in one accumulator (`scales_unmixed`).
-/

namespace PowerMeterDisplay

/-! ## The session -/

/-- The call resets the extremes of the record. -/
def ChannelOp.clearsExtremes (d : DisplayData) : ChannelOp → Bool
  | .frame x => x.announced.any fun scale => d.scale.differs scale
  | .resetData => true
  | .resetMinmax => true
  | _ => false

/-- The samples taken in since the extremes were last reset. -/
def session (log : ChannelLog) : List Sample :=
  Log.window (fun entry => entry.2.clearsExtremes entry.1) (fun entry => entry.2.taken) log

namespace Sample

/-- The product that `peak_pow` is updated with: `int` has 16 bits, so it is an unsigned one. -/
def product16 (x : Sample) : UInt16 := x.v * x.i.toUInt16

end Sample

/-! ## Running extremes -/

/-- As long as the products are not negative, the record is their maximum. -/
theorem updatePeakPow_eq_max {peakPow tempPow : Int32} (hpeak : 0 ≤ peakPow.toInt)
    (htemp : 0 ≤ tempPow.toInt) :
    (updatePeakPow peakPow tempPow).toInt = max peakPow.toInt tempPow.toInt := by
  have hneg {x : Int32} (hx : 0 ≤ x.toInt) : ¬ x < 0 := by
    rw [Int32.lt_iff_toInt_lt]
    exact Int.not_lt.2 hx
  unfold updatePeakPow
  rw [if_neg (hneg hpeak), if_neg (hneg htemp)]
  by_cases hzero : peakPow = 0
  · rw [if_pos hzero, hzero]
    exact (max_eq_right htemp).symm
  · rw [if_neg hzero]
    exact key_max Int32.lt_iff_toInt_lt peakPow tempPow

/-- The extremes of the record are the running extremes of the samples, and the peak record is the
running maximum of the products that it is updated with. -/
structure Extremes (d : DisplayData) (w : List Sample) : Prop where
  minV : d.minV.toNat = (w.map fun x => x.v.toNat).foldl min 65535
  maxV : d.maxV.toNat = (w.map fun x => x.v.toNat).foldl max 0
  minI : d.minI.toInt = (w.map fun x => x.i.toInt).foldl min 32767
  maxI : d.maxI.toInt = (w.map fun x => x.i.toInt).foldl max (-32768)
  peakPow : d.peakPow.toInt = ((w.map fun x => x.product16.toNat).foldl max 0 : ℕ)

namespace Extremes

variable {d : DisplayData} {w : List Sample}

theorem reset (d : DisplayData) (measure : UInt8) : Extremes (lcdEadogResetData d measure) [] :=
  ⟨rfl, rfl, rfl, rfl, rfl⟩

/-- One sample. -/
theorem addSample (h : Extremes d w) (x : Sample) : Extremes (addSample d x) (w ++ [x]) where
  minV := by
    rw [List.map_append, List.foldl_append, ← h.minV]
    exact key_min UInt16.lt_iff_toNat_lt d.minV x.v
  maxV := by
    rw [List.map_append, List.foldl_append, ← h.maxV]
    exact key_max UInt16.lt_iff_toNat_lt d.maxV x.v
  minI := by
    rw [List.map_append, List.foldl_append, ← h.minI]
    exact key_min Int16.lt_iff_toInt_lt d.minI x.i
  maxI := by
    rw [List.map_append, List.foldl_append, ← h.maxI]
    exact key_max Int16.lt_iff_toInt_lt d.maxI x.i
  peakPow := by
    have hpeak : 0 ≤ d.peakPow.toInt := by rw [h.peakPow]; exact Int.natCast_nonneg _
    have htemp := toInt_toInt32 x.product16
    have hstep := updatePeakPow_eq_max hpeak (htemp ▸ Int.natCast_nonneg _)
    rw [List.map_append, List.foldl_append, List.map_singleton, List.foldl_cons, List.foldl_nil,
      Nat.cast_max, ← h.peakPow, ← htemp, ← hstep]
    rfl

/-- One call. -/
theorem apply (h : Extremes d w) {p : Port} {op : ChannelOp} {d' : DisplayData}
    (hcount : ∀ x, op = .frame x → x.count.toNat ≤ 60) (happly : op.apply p d = some d') :
    Extremes d' (if op.clearsExtremes d then [] else w ++ op.taken) := by
  cases op with
  | frame x =>
    exact accumulates_frame (fun d measure => reset d measure) (fun h x => h.addSample x)
      (hcount x rfl) h happly
  | createMenu =>
    obtain rfl := Option.some.inj happly
    simp only [ChannelOp.clearsExtremes, ChannelOp.taken, Bool.false_eq_true, if_false,
      List.append_nil]
    unfold lcdEadogCreateMenu
    split_ifs
    · exact h
    · exact ⟨h.minV, h.maxV, h.minI, h.maxI, h.peakPow⟩
  | resetData =>
    obtain rfl := Option.some.inj happly
    exact Extremes.reset d _
  | resetMinmax =>
    obtain rfl := Option.some.inj happly
    exact ⟨rfl, rfl, rfl, rfl, rfl⟩
  | setMenuPos menuCounter =>
    obtain rfl := Option.some.inj happly
    simp only [ChannelOp.clearsExtremes, ChannelOp.taken, Bool.false_eq_true, if_false,
      List.append_nil]
    exact ⟨h.minV, h.maxV, h.minI, h.maxI, h.peakPow⟩

end Extremes

/-- In every run of a channel the extremes belong to its session. -/
theorem extremes_of_run {p : Port} {ops : List ChannelOp} {d : DisplayData} {log : ChannelLog}
    (hcount : ∀ x, .frame x ∈ ops → x.count.toNat ≤ 60)
    (hrun : (channel p).run (.start p) ops = some (d, log)) : Extremes d (session log) := by
  refine Log.window_of_run _ _ (channel p) (P := Extremes) (Extremes.reset .zero p.disabled) ?_ hrun
  intro d w op d' out hop h hstep
  obtain ⟨happly, rfl⟩ := channel_eq_some_iff.1 hstep
  exact h.apply (fun x (hx : op = .frame x) => hcount x (hx ▸ hop)) happly

/-! ## Exact extremes -/

/-- The reset values of the extremes. -/
structure ExtremesReset (d : DisplayData) : Prop where
  minV : d.minV = 0xffff
  maxV : d.maxV = 0
  minI : d.minI = Int16.maxValue
  maxI : d.maxI = Int16.minValue

/-- The extremes are the least and the greatest readings. -/
structure ExtremesExact (d : DisplayData) (w : List Sample) : Prop where
  minV : IsLeast {n | n ∈ w.map fun x => x.v.toNat} d.minV.toNat
  maxV : IsGreatest {n | n ∈ w.map fun x => x.v.toNat} d.maxV.toNat
  minI : IsLeast {n | n ∈ w.map fun x => x.i.toInt} d.minI.toInt
  maxI : IsGreatest {n | n ∈ w.map fun x => x.i.toInt} d.maxI.toInt

namespace Extremes

variable {d : DisplayData} {w : List Sample}

theorem reset_of_nil (h : Extremes d []) : ExtremesReset d where
  minV := UInt16.toNat_inj.1 h.minV
  maxV := UInt16.toNat_inj.1 h.maxV
  minI := Int16.toInt_inj.1 h.minI
  maxI := Int16.toInt_inj.1 h.maxI

/-- Every reading lies between the reset values, so the first one replaces them. -/
theorem exact_of_ne_nil (h : Extremes d w) (hw : w ≠ []) : ExtremesExact d w where
  minV := by
    rw [h.minV]
    refine List.foldl_min_isLeast (by simpa using hw) fun n hn => ?_
    obtain ⟨x, -, rfl⟩ := List.mem_map.1 hn
    have := x.v.toNat_lt
    omega
  maxV := by
    rw [h.maxV]
    exact List.foldl_max_isGreatest (by simpa using hw) fun n _ => Nat.zero_le n
  minI := by
    rw [h.minI]
    refine List.foldl_min_isLeast (by simpa using hw) fun n hn => ?_
    obtain ⟨x, -, rfl⟩ := List.mem_map.1 hn
    have := x.i.toInt_lt
    omega
  maxI := by
    rw [h.maxI]
    refine List.foldl_max_isGreatest (by simpa using hw) fun n hn => ?_
    obtain ⟨x, -, rfl⟩ := List.mem_map.1 hn
    exact x.i.le_toInt

end Extremes

/-- The records have the same extremes. -/
structure SameExtremes (d d' : DisplayData) : Prop where
  minV : d'.minV = d.minV
  maxV : d'.maxV = d.maxV
  minI : d'.minI = d.minI
  maxI : d'.maxI = d.maxI

theorem sameExtremes_createMenu (d : DisplayData) : SameExtremes d (lcdEadogCreateMenu d) := by
  unfold lcdEadogCreateMenu
  split_ifs <;> exact ⟨rfl, rfl, rfl, rfl⟩

/-- A scale frame that changes nothing leaves the record and the session alone. -/
theorem session_of_same {x : Dispatch} {d : DisplayData} (hcount : x.count.toNat ≤ 60)
    (haction : x.action = .recvScale)
    (hsame : ∀ scale, x.announced = some scale → d.scale.differs scale = false)
    (log : ChannelLog) :
    (switchCommand x d).map Prod.snd = some d ∧
      session (log ++ [(d, .frame x)]) = session log := by
  constructor
  · obtain ⟨⟨buf, d'⟩, hswitch⟩ : ∃ r, switchCommand x d = some r := ⟨_, switchCommand_eq hcount d⟩
    rw [hswitch]
    rcases switchCommand_scale hswitch with ⟨hnone, -, -⟩ | ⟨hsome, rfl⟩
    · have hshort : x.len < 15 := by
        by_contra hlong
        simp [Dispatch.announced, haction, hlong] at hnone
      rw [switchCommand_eq hcount, Dispatch.apply, haction, if_pos hshort] at hswitch
      exact congrArg some (Prod.mk.inj (Option.some.inj hswitch)).2.symm
    · exact congrArg some (if_neg (Bool.eq_false_iff.1 (hsame _ hsome)))
  · have hkeeps : x.announced.any (fun scale => d.scale.differs scale) = false := by
      cases hannounced : x.announced with
      | none => rfl
      | some scale => exact hsame scale hannounced
    have htaken : (ChannelOp.frame x).taken = [] := by simp [ChannelOp.taken, haction]
    rw [session, Log.window_concat, ChannelOp.clearsExtremes, hkeeps, htaken, List.append_nil]
    rfl

/-- In every run of a channel the extremes are the exact ones of the session, or the reset values
when the session has no sample; a refresh keeps both the extremes and the session, and so does a
scale frame that changes nothing. -/
theorem extremes_of_session {p : Port} {ops : List ChannelOp} {d : DisplayData} {log : ChannelLog}
    (hcount : ∀ x, .frame x ∈ ops → x.count.toNat ≤ 60)
    (hrun : (channel p).run (.start p) ops = some (d, log)) :
    (session log = [] → ExtremesReset d) ∧
      (session log ≠ [] → ExtremesExact d (session log)) ∧
      (SameExtremes d (lcdEadogCreateMenu d) ∧
        session (log ++ [(d, .createMenu)]) = session log) ∧
      ∀ x : Dispatch, x.count.toNat ≤ 60 → x.action = .recvScale →
        (∀ scale, x.announced = some scale → d.scale.differs scale = false) →
        (switchCommand x d).map Prod.snd = some d ∧
          session (log ++ [(d, .frame x)]) = session log := by
  have hextremes := extremes_of_run hcount hrun
  refine ⟨fun hempty => ?_, hextremes.exact_of_ne_nil, ⟨sameExtremes_createMenu d, ?_⟩,
    fun x hx haction hsame => session_of_same hx haction hsame log⟩
  · rw [hempty] at hextremes
    exact hextremes.reset_of_nil
  · rw [session, Log.window_concat]
    exact List.append_nil _

/-- A PowerMeter that announces its scale and sends one sample, and then another scale and three. -/
def rescaled : List ChannelOp :=
  [.frame scaleFrame, .frame dataFrame, .frame scaleFrame', .frame samplesFrame]

theorem rescaled_taken :
    (∀ x, .frame x ∈ rescaled → x.count.toNat ≤ 60) ∧
      ∃ d log, (channel .one).run (.start .one) rescaled = some (d, log) ∧
        session log = [⟨300, 200⟩, ⟨100, -100⟩, ⟨10, 5⟩] ∧ d.scale = scaleFrame'.msgBuf.scale := by
  refine ⟨fun x hx => ?_, _, _, rfl, rfl, rfl⟩
  simp only [rescaled, List.mem_cons, ChannelOp.frame.injEq, List.not_mem_nil, or_false] at hx
  rcases hx with rfl | rfl | rfl | rfl <;> decide

theorem extremes_of_session_rescaled :
    ∃ d log, (channel .one).run (.start .one) rescaled = some (d, log) ∧
      session log = [⟨300, 200⟩, ⟨100, -100⟩, ⟨10, 5⟩] ∧ ExtremesExact d (session log) := by
  obtain ⟨hcount, d, log, hrun, hsession, -⟩ := rescaled_taken
  have hne : session log ≠ [] := by rw [hsession]; exact List.cons_ne_nil _ _
  exact ⟨d, log, hrun, hsession, (extremes_of_session hcount hrun).2.1 hne⟩

/-! ## Scale settings -/

/-- The accumulators at their reset values. -/
structure AccumulatorsReset (d : DisplayData) : Prop extends ExtremesReset d where
  voltageRms : d.voltageRms = 0
  currentRms : d.currentRms = 0
  voltageMean : d.voltageMean = 0
  currentMean : d.currentMean = 0
  samples : d.samples = 0
  peakPow : d.peakPow = 0

theorem accumulatorsReset_resetData (d : DisplayData) (measure : UInt8) :
    AccumulatorsReset (lcdEadogResetData d measure) :=
  ⟨⟨rfl, rfl, rfl, rfl⟩, rfl, rfl, rfl, rfl, rfl, rfl⟩

/-- A scale frame either leaves the record alone, being too short or announcing the stored setting,
or installs the announced setting and resets the accumulators. -/
theorem protoRecvScale_outcome (buf : MsgBuf) (len : UInt8) (d : DisplayData) :
    ∃ buf' d', protoRecvScale buf len d = some (buf', d') ∧
      (d' = d ∧ (len < 15 ∨ d.scale.differs buf.scale = false) ∨
        d'.scale = buf.scale ∧ AccumulatorsReset d') := by
  by_cases hshort : len < 15
  · exact ⟨buf, d, if_pos hshort, Or.inl ⟨rfl, Or.inl hshort⟩⟩
  · refine ⟨_, _, protoRecvScale_eq buf (UInt8.not_lt.1 hshort) d, ?_⟩
    unfold applyScale
    split_ifs with hdiffers
    · exact Or.inr ⟨rfl, accumulatorsReset_resetData _ _⟩
    · exact Or.inl ⟨rfl, Or.inr (Bool.eq_false_iff.2 hdiffers)⟩

/-- The samples that a call takes in, each with the setting stored at that time. -/
def scaled (entry : DisplayData × ChannelOp) : List (Scale × Sample) :=
  entry.2.taken.map fun x => (entry.1.scale, x)

/-- The averaging window with the settings. -/
def scaledWindow (log : ChannelLog) : List (Scale × Sample) :=
  Log.window (fun entry => entry.2.clearsSums entry.1) scaled log

/-- The session with the settings. -/
def scaledSession (log : ChannelLog) : List (Scale × Sample) :=
  Log.window (fun entry => entry.2.clearsExtremes entry.1) scaled log

theorem scaledWindow_snd (log : ChannelLog) :
    (scaledWindow log).map Prod.snd = averagingWindow log := by
  rw [scaledWindow, ← Log.window_map, averagingWindow]
  congr 1
  funext entry
  simp [scaled]

theorem scaledSession_snd (log : ChannelLog) :
    (scaledSession log).map Prod.snd = session log := by
  rw [scaledSession, ← Log.window_map, session]
  congr 1
  funext entry
  simp [scaled]

/-- Only a scale frame that differs changes the setting. -/
theorem ChannelOp.apply_scale {p : Port} {op : ChannelOp} {d d' : DisplayData}
    (happly : op.apply p d = some d')
    (hsame : ∀ x, op = .frame x → x.announced.any (fun scale => d.scale.differs scale) = false) :
    d'.scale = d.scale := by
  cases op with
  | frame x =>
    obtain ⟨⟨buf, d''⟩, hswitch, rfl⟩ := Option.map_eq_some_iff.1 happly
    rcases switchCommand_scale hswitch with ⟨-, hscale, -⟩ | ⟨hsome, rfl⟩
    · exact hscale
    · have hsame := hsame x rfl
      rw [hsome, Option.any_some] at hsame
      exact congrArg DisplayData.scale (if_neg (Bool.eq_false_iff.1 hsame))
  | createMenu =>
    obtain rfl := Option.some.inj happly
    unfold lcdEadogCreateMenu
    split_ifs <;> rfl
  | resetData | resetMinmax | setMenuPos _ =>
    obtain rfl := Option.some.inj happly
    rfl

/-- A window that every change of the setting clears holds samples of the stored setting only. -/
theorem scale_of_window (clears : DisplayData → ChannelOp → Bool)
    (hclears : ∀ d x, clears d (.frame x) = x.announced.any fun scale => d.scale.differs scale)
    {p : Port} {ops : List ChannelOp} {d : DisplayData} {log : ChannelLog}
    (hrun : (channel p).run (.start p) ops = some (d, log)) :
    ∀ e ∈ Log.window (fun entry => clears entry.1 entry.2) scaled log, e.1 = d.scale := by
  refine Log.window_of_run _ _ (channel p)
    (P := fun (d : DisplayData) (w : List (Scale × Sample)) => ∀ e ∈ w, e.1 = d.scale)
    (fun e he => absurd he List.not_mem_nil) ?_ hrun
  intro d w op d' out _ h hstep
  obtain ⟨happly, rfl⟩ := channel_eq_some_iff.1 hstep
  change ∀ e ∈ if clears d op then [] else w ++ scaled (d, op), e.1 = d'.scale
  split_ifs with hclear
  · exact fun e he => absurd he List.not_mem_nil
  · have hscale : d'.scale = d.scale := by
      refine ChannelOp.apply_scale happly fun x hx => ?_
      rw [← hclears, ← hx]
      exact Bool.eq_false_iff.2 hclear
    intro e he
    rw [hscale]
    rcases List.mem_append.1 he with he | he
    · exact h e he
    · obtain ⟨x, -, rfl⟩ := List.mem_map.1 he
      rfl

/-- For every scale payload, length and record: the record is left alone, or the setting is
installed and the accumulators are reset.  So in every run of a channel, the samples in its sums,
and those in its extremes and peak record, were taken in under the setting that is stored now. -/
theorem scales_unmixed {p : Port} {ops : List ChannelOp} {d : DisplayData} {log : ChannelLog}
    (hcount : ∀ x, .frame x ∈ ops → x.count.toNat ≤ 60)
    (hrun : (channel p).run (.start p) ops = some (d, log)) :
    (∀ buf len d₀, ∃ buf' d', protoRecvScale buf len d₀ = some (buf', d') ∧
        (d' = d₀ ∧ (len < 15 ∨ d₀.scale.differs buf.scale = false) ∨
          d'.scale = buf.scale ∧ AccumulatorsReset d')) ∧
      Sums d ((scaledWindow log).map Prod.snd) ∧ (∀ e ∈ scaledWindow log, e.1 = d.scale) ∧
      Extremes d ((scaledSession log).map Prod.snd) ∧ ∀ e ∈ scaledSession log, e.1 = d.scale := by
  refine ⟨protoRecvScale_outcome, ?_, ?_, ?_, ?_⟩
  · rw [scaledWindow_snd]
    exact sums_of_run hcount hrun
  · exact scale_of_window (fun d op => op.clearsSums d) (fun _ _ => rfl) hrun
  · rw [scaledSession_snd]
    exact extremes_of_run hcount hrun
  · exact scale_of_window ChannelOp.clearsExtremes (fun _ _ => rfl) hrun

theorem scales_unmixed_rescaled :
    ∃ d log, (channel .one).run (.start .one) rescaled = some (d, log) ∧
      (scaledSession log).map Prod.snd = [⟨300, 200⟩, ⟨100, -100⟩, ⟨10, 5⟩] ∧
      ∀ e ∈ scaledSession log, e.1 = scaleFrame'.msgBuf.scale := by
  obtain ⟨hcount, d, log, hrun, hsession, hstored⟩ := rescaled_taken
  obtain ⟨-, -, -, -, hscale⟩ := scales_unmixed hcount hrun
  rw [hstored] at hscale
  exact ⟨d, log, hrun, (scaledSession_snd log).trans hsession, hscale⟩

end PowerMeterDisplay

import PowerMeterDisplay.Channel
import PowerMeterDisplay.Lib.Window
import Mathlib.Algebra.Order.BigOperators.Group.List
import Mathlib.Tactic.Linarith

/-!
# Sums over an averaging window

The averaging window of a record is the list of the samples taken in since its sums were last
cleared.  In every run of a channel the five accumulators hold the exact count and sums of the
window, each reduced to the width of its field (`sums_of_run`).  The sums have room for 65535
samples, so they are exact as long as the 16-bit counter is (`Sums.exact_iff`).
-/

namespace PowerMeterDisplay

/-! ## The window -/

namespace ChannelOp

/-- The samples that a call takes in. -/
def taken : ChannelOp → List Sample
  | .frame x => if x.action = .recvData then x.msgBuf.samples x.len else []
  | _ => []

/-- The call clears the sums of the record. -/
def clearsSums (d : DisplayData) : ChannelOp → Bool
  | .frame x => x.announced.any fun scale => d.scale.differs scale
  | .createMenu => !decide (d.measure > 2)
  | .resetData => true
  | _ => false

end ChannelOp

/-- The samples taken in since the sums were last cleared. -/
def averagingWindow (log : ChannelLog) : List Sample :=
  Log.window (fun entry => entry.2.clearsSums entry.1) (fun entry => entry.2.taken) log

/-- A frame restarts what is accumulated, when it changes the scale setting, or adds its samples. -/
theorem accumulates_frame {P : DisplayData → List Sample → Prop}
    (hreset : ∀ d measure, P (lcdEadogResetData d measure) [])
    (hadd : ∀ {d w}, P d w → ∀ x, P (addSample d x) (w ++ [x])) {p : Port} {x : Dispatch}
    (hcount : x.count.toNat ≤ 60) {d d' : DisplayData} {w : List Sample} (h : P d w)
    (happly : (ChannelOp.frame x).apply p d = some d') :
    P d' (if (ChannelOp.frame x).clearsSums d then [] else w ++ (ChannelOp.frame x).taken) := by
  have hfold : ∀ (xs : List Sample) (d : DisplayData) (w : List Sample), P d w →
      P (xs.foldl addSample d) (w ++ xs) := by
    intro xs
    induction xs with
    | nil => intro d w h; simpa using h
    | cons x xs ih => intro d w h; simpa using ih _ _ (hadd h x)
  obtain rfl : x.apply d = d' := by
    rw [ChannelOp.apply, switchCommand_eq hcount, Option.map_some] at happly
    exact Option.some.inj happly
  rcases haction : x.action with _ | _ | _ | _
  · simpa [Dispatch.apply, ChannelOp.clearsSums, ChannelOp.taken, Dispatch.announced, haction]
      using hfold (x.msgBuf.samples x.len) d w h
  · have htaken : (ChannelOp.frame x).taken = [] := by simp [ChannelOp.taken, haction]
    rw [htaken, List.append_nil, Dispatch.apply, haction, ChannelOp.clearsSums,
      Dispatch.announced]
    by_cases hshort : x.len < 15
    · simpa [haction, hshort] using h
    · by_cases hdiffers : d.scale.differs x.msgBuf.scale
      · simp only [haction, hshort, applyScale, hdiffers, if_true, if_false, not_false_eq_true,
          and_self, Option.any_some]
        exact hreset _ _
      · simpa [haction, hshort, applyScale, hdiffers] using h
  · simpa [Dispatch.apply, ChannelOp.clearsSums, ChannelOp.taken, Dispatch.announced, haction]
      using h
  · simpa [Dispatch.apply, ChannelOp.clearsSums, ChannelOp.taken, Dispatch.announced, haction]
      using h

/-! ## The accumulators -/

/-- The accumulators of the record hold the count and the sums of the samples, each reduced to the
width of its field. -/
structure Sums (d : DisplayData) (w : List Sample) : Prop where
  samples : d.samples = UInt16.ofNat w.length
  voltageMean : d.voltageMean = UInt32.ofNat (w.map fun x => x.v.toNat).sum
  currentMean : d.currentMean = Int32.ofInt (w.map fun x => x.i.toInt).sum
  voltageRms : d.voltageRms = UInt64.ofNat (w.map fun x => x.v.toNat ^ 2).sum
  currentRms : d.currentRms = Int64.ofInt (w.map fun x => x.i.toInt ^ 2).sum

/-- No counter or sum has wrapped. -/
structure AveragesExact (d : DisplayData) (w : List Sample) : Prop where
  samples : d.samples.toNat = w.length
  voltageMean : d.voltageMean.toNat = (w.map fun x => x.v.toNat).sum
  currentMean : d.currentMean.toInt = (w.map fun x => x.i.toInt).sum
  voltageRms : d.voltageRms.toNat = (w.map fun x => x.v.toNat ^ 2).sum
  currentRms : d.currentRms.toInt = (w.map fun x => x.i.toInt ^ 2).sum

namespace Sample

/-- The square of a voltage reading fits the 32 bits in which it is computed. -/
theorem squareV_eq (v : UInt16) :
    (v.toUInt32 * v.toUInt32).toUInt64 = UInt64.ofNat (v.toNat ^ 2) := by
  have hv := v.toNat_lt
  have hsq : v.toNat * v.toNat < 2 ^ 32 := by nlinarith
  rw [← UInt64.toNat_inj, UInt32.toNat_toUInt64, UInt32.toNat_mul, UInt16.toNat_toUInt32,
    Nat.mod_eq_of_lt hsq, pow_two, UInt64.toNat_ofNat_of_lt' (by change _ < 2 ^ 64; omega)]

/-- The square of a current reading fits the 32 bits in which it is computed. -/
theorem squareI_eq (i : Int16) : (i.toInt32 * i.toInt32).toInt64 = Int64.ofInt (i.toInt ^ 2) := by
  have hlo := i.le_toInt
  have hhi := i.toInt_lt
  have hsq : i.toInt * i.toInt ≤ 2 ^ 30 := by nlinarith
  have hsq0 : 0 ≤ i.toInt * i.toInt := mul_self_nonneg _
  rw [← Int64.toInt_inj, Int32.toInt_toInt64, Int32.toInt_mul, Int16.toInt_toInt32, pow_two,
    Int64.toInt_ofInt_of_le (by omega) (by omega)]
  exact Int.bmod_eq_of_le (by omega) (by omega)

end Sample

/-- A 16-bit value keeps its value in the signed 32 bits that C converts it to. -/
theorem toInt_toInt32 (n : UInt16) : n.toUInt32.toInt32.toInt = n.toNat := by
  have hlt := n.toNat_lt
  have hwide : n.toUInt32 = UInt32.ofNat n.toNat := by
    rw [← UInt32.toNat_inj, UInt16.toNat_toUInt32,
      UInt32.toNat_ofNat_of_lt' (by change _ < 2 ^ 32; omega)]
  rw [hwide, UInt32.toInt32_ofNat', Int32.toInt_ofNat_of_lt (by omega)]

theorem toInt_toInt64 (n : UInt16) : n.toUInt64.toInt64.toInt = n.toNat := by
  have hlt := n.toNat_lt
  have hwide : n.toUInt64 = UInt64.ofNat n.toNat := by
    rw [← UInt64.toNat_inj, UInt16.toNat_toUInt64,
      UInt64.toNat_ofNat_of_lt' (by change _ < 2 ^ 64; omega)]
  rw [hwide, UInt64.toInt64_ofNat', Int64.toInt_ofNat_of_lt (by omega)]

theorem sum_map_le {w : List Sample} {f : Sample → ℕ} {b : ℕ} (h : ∀ x, f x ≤ b) :
    (w.map f).sum ≤ w.length * b := by
  have hle := List.sum_le_card_nsmul (w.map f) b fun n hn => by
    obtain ⟨x, -, rfl⟩ := List.mem_map.1 hn
    exact h x
  simpa using hle

theorem sum_map_bounds {w : List Sample} {f : Sample → ℤ} {a b : ℤ} (h : ∀ x, a ≤ f x ∧ f x ≤ b) :
    w.length * a ≤ (w.map f).sum ∧ (w.map f).sum ≤ w.length * b := by
  have hle := List.sum_le_card_nsmul (w.map f) b fun n hn => by
    obtain ⟨x, -, rfl⟩ := List.mem_map.1 hn
    exact (h x).2
  have hge := List.card_nsmul_le_sum (w.map f) a fun n hn => by
    obtain ⟨x, -, rfl⟩ := List.mem_map.1 hn
    exact (h x).1
  exact ⟨by simpa using hge, by simpa using hle⟩

namespace Sums

variable {d : DisplayData} {w : List Sample}

theorem reset (d : DisplayData) (measure : UInt8) : Sums (lcdEadogResetData d measure) [] :=
  ⟨rfl, rfl, rfl, rfl, rfl⟩

/-- One sample. -/
theorem addSample (h : Sums d w) (x : Sample) : Sums (addSample d x) (w ++ [x]) where
  samples := by
    rw [List.length_append, UInt16.ofNat_add, ← h.samples]
    rfl
  voltageMean := by
    rw [List.map_append, List.sum_append, UInt32.ofNat_add, ← h.voltageMean]
    simp [PowerMeterDisplay.addSample]
  currentMean := by
    rw [List.map_append, List.sum_append, Int32.ofInt_add, ← h.currentMean]
    simp [PowerMeterDisplay.addSample]
  voltageRms := by
    rw [List.map_append, List.sum_append, UInt64.ofNat_add, ← h.voltageRms]
    simp only [PowerMeterDisplay.addSample, Sample.squareV_eq, List.map_cons, List.map_nil,
      List.sum_singleton]
  currentRms := by
    rw [List.map_append, List.sum_append, Int64.ofInt_add, ← h.currentRms]
    simp only [PowerMeterDisplay.addSample, Sample.squareI_eq, List.map_cons, List.map_nil,
      List.sum_singleton]

/-- One call. -/
theorem apply (h : Sums d w) {p : Port} {op : ChannelOp} {d' : DisplayData}
    (hcount : ∀ x, op = .frame x → x.count.toNat ≤ 60) (happly : op.apply p d = some d') :
    Sums d' (if op.clearsSums d then [] else w ++ op.taken) := by
  cases op with
  | frame x =>
    exact accumulates_frame (fun d measure => reset d measure) (fun h x => h.addSample x)
      (hcount x rfl) h happly
  | createMenu =>
    obtain rfl := Option.some.inj happly
    by_cases hdisabled : d.measure > 2
    · simpa [ChannelOp.clearsSums, ChannelOp.taken, lcdEadogCreateMenu, hdisabled] using h
    · simp only [ChannelOp.clearsSums, lcdEadogCreateMenu, hdisabled, decide_false, Bool.not_false,
        if_true, if_false]
      exact ⟨rfl, rfl, rfl, rfl, rfl⟩
  | resetData =>
    obtain rfl := Option.some.inj happly
    exact Sums.reset d _
  | resetMinmax =>
    obtain rfl := Option.some.inj happly
    simp only [ChannelOp.clearsSums, ChannelOp.taken, Bool.false_eq_true, if_false, List.append_nil]
    exact ⟨h.samples, h.voltageMean, h.currentMean, h.voltageRms, h.currentRms⟩
  | setMenuPos menuCounter =>
    obtain rfl := Option.some.inj happly
    simp only [ChannelOp.clearsSums, ChannelOp.taken, Bool.false_eq_true, if_false, List.append_nil]
    exact ⟨h.samples, h.voltageMean, h.currentMean, h.voltageRms, h.currentRms⟩

/-- The sums of at most 65535 samples fit their fields. -/
theorem exact_of_length_le (h : Sums d w) (hlen : w.length ≤ 65535) : AveragesExact d w where
  samples := by
    rw [h.samples, UInt16.toNat_ofNat_of_lt' (by change _ < 65536; omega)]
  voltageMean := by
    have hle : (w.map fun x => x.v.toNat).sum ≤ w.length * 65535 := sum_map_le fun x => by
      have := x.v.toNat_lt
      omega
    rw [h.voltageMean, UInt32.toNat_ofNat_of_lt' (by change _ < 2 ^ 32; omega)]
  currentMean := by
    obtain ⟨hlo, hhi⟩ : w.length * (-2 ^ 15 : ℤ) ≤ (w.map fun x => x.i.toInt).sum ∧
        (w.map fun x => x.i.toInt).sum ≤ w.length * (2 ^ 15 - 1) :=
      sum_map_bounds fun x => ⟨x.i.le_toInt, by have := x.i.toInt_lt; omega⟩
    rw [h.currentMean, Int32.toInt_ofInt_of_le (by omega) (by omega)]
  voltageRms := by
    have hle : (w.map fun x => x.v.toNat ^ 2).sum ≤ w.length * 65535 ^ 2 := sum_map_le fun x => by
      have := x.v.toNat_lt
      exact Nat.pow_le_pow_left (by omega) 2
    rw [h.voltageRms, UInt64.toNat_ofNat_of_lt' (by change _ < 2 ^ 64; omega)]
  currentRms := by
    obtain ⟨hlo, hhi⟩ : w.length * (0 : ℤ) ≤ (w.map fun x => x.i.toInt ^ 2).sum ∧
        (w.map fun x => x.i.toInt ^ 2).sum ≤ w.length * (2 ^ 30 : ℤ) := by
      refine sum_map_bounds fun x => ⟨sq_nonneg _, ?_⟩
      have hlo := x.i.le_toInt
      have hhi := x.i.toInt_lt
      nlinarith
    rw [h.currentRms, Int64.toInt_ofInt_of_le (by omega) (by omega)]

/-- The accumulators are exact as long as the 16-bit counter has not wrapped. -/
theorem exact_iff (h : Sums d w) : AveragesExact d w ↔ w.length ≤ 65535 := by
  refine ⟨fun hexact => ?_, h.exact_of_length_le⟩
  rw [← hexact.samples]
  have := d.samples.toNat_lt
  omega

/-- The counter is zero exactly at the multiples of its range. -/
theorem samples_ne_zero_iff (h : Sums d w) : d.samples ≠ 0 ↔ ¬ 65536 ∣ w.length := by
  rw [h.samples, Nat.dvd_iff_mod_eq_zero, not_iff_not, ← UInt16.toNat_inj, UInt16.toNat_ofNat]
  rfl

end Sums

/-- In every run of a channel the accumulators belong to its averaging window. -/
theorem sums_of_run {p : Port} {ops : List ChannelOp} {d : DisplayData} {log : ChannelLog}
    (hcount : ∀ x, .frame x ∈ ops → x.count.toNat ≤ 60)
    (hrun : (channel p).run (.start p) ops = some (d, log)) : Sums d (averagingWindow log) := by
  refine Log.window_of_run _ _ (channel p) (P := Sums) (Sums.reset .zero p.disabled) ?_ hrun
  intro d w op d' out hop h hstep
  obtain ⟨happly, rfl⟩ := channel_eq_some_iff.1 hstep
  exact h.apply (fun x (hx : op = .frame x) => hcount x (hx ▸ hop)) happly

end PowerMeterDisplay

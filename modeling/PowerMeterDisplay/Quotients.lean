import PowerMeterDisplay.Averages
import PowerMeterDisplay.Lib.Extreme
import PowerMeterDisplay.Lib.Mean

/-!
# The quotients of a menu page

As long as the sums of the averaging window are exact, the divisions of `lcd_eadog_create_menu` are
the truncated means of the readings and of their squares (`quotientsExact_of_averages`).  What holds
of truncated means then holds of the integers that are printed: the square of a mean is at most the
mean of the squares, and a mean lies between the smallest and the largest reading
(`quotients_ordered`).
-/

namespace PowerMeterDisplay

/-! ## Truncated means -/

/-- The voltage readings of a window. -/
def voltages (w : List Sample) : List ℤ := w.map fun x => (x.v.toNat : ℤ)

/-- The current readings of a window. -/
def currents (w : List Sample) : List ℤ := w.map fun x => x.i.toInt

/-- The quotients are the truncated means of the window. -/
structure QuotientsExact (q : Quotients) (w : List Sample) : Prop where
  voltageRms : (q.voltageRms.toNat : ℤ) = (voltages w).tmeanSq
  currentRms : q.currentRms.toInt = (currents w).tmeanSq
  voltageMean : ∀ m ∈ q.means, (m.1.toNat : ℤ) = (voltages w).tmean
  currentMean : ∀ m ∈ q.means, m.2.toInt = (currents w).tmean

/-- A signed sum is divided by the counter as a whole number. -/
theorem toInt_div_samples32 (a : Int32) (n : UInt16) :
    (a / n.toUInt32.toInt32).toInt = a.toInt.tdiv n.toNat := by
  have hn := toInt_toInt32 n
  have hne : n.toUInt32.toInt32 ≠ -1 := fun h => by
    rw [h] at hn
    have : (-1 : ℤ) = n.toNat := hn
    omega
  rw [Int32.toInt_div_of_ne_right a _ hne, hn]

theorem toInt_div_samples64 (a : Int64) (n : UInt16) :
    (a / n.toUInt64.toInt64).toInt = a.toInt.tdiv n.toNat := by
  have hn := toInt_toInt64 n
  have hne : n.toUInt64.toInt64 ≠ -1 := fun h => by
    rw [h] at hn
    have : (-1 : ℤ) = n.toNat := hn
    omega
  rw [Int64.toInt_div_of_ne_right a _ hne, hn]

/-- With exact sums the quotients are the truncated means. -/
theorem quotientsExact_of_averages {d : DisplayData} {w : List Sample} (h : AveragesExact d w)
    {q : Quotients} (hq : menuQuotients d = some q) : QuotientsExact q w := by
  obtain ⟨-, hrmsV, hrmsI, -, hmeans⟩ := menuQuotients_eq_some hq
  have hlengthV : (voltages w).length = d.samples.toNat := by
    rw [h.samples, voltages, List.length_map]
  have hlengthI : (currents w).length = d.samples.toNat := by
    rw [h.samples, currents, List.length_map]
  have hsumV : (voltages w).sum = (d.voltageMean.toNat : ℤ) := by
    rw [h.voltageMean, voltages, Nat.cast_list_sum, List.map_map]
    rfl
  have hsumI : (currents w).sum = d.currentMean.toInt := h.currentMean.symm
  have hsqV : ((voltages w).map fun n => n ^ 2).sum = (d.voltageRms.toNat : ℤ) := by
    rw [h.voltageRms, voltages, Nat.cast_list_sum, List.map_map, List.map_map]
    congr 2
  have hsqI : ((currents w).map fun n => n ^ 2).sum = d.currentRms.toInt := by
    rw [h.currentRms, currents, List.map_map]
    rfl
  constructor
  · rw [hrmsV, List.tmeanSq, hsqV, hlengthV, UInt64.toNat_div, UInt16.toNat_toUInt64]
    exact Int.ofNat_tdiv _ _
  · rw [hrmsI, List.tmeanSq, hsqI, hlengthI]
    exact toInt_div_samples64 _ _
  · intro m hm
    rw [hmeans m hm, List.tmean, hsumV, hlengthV, UInt32.toNat_div, UInt16.toNat_toUInt32]
    exact Int.ofNat_tdiv _ _
  · intro m hm
    rw [hmeans m hm, List.tmean, hsumI, hlengthI]
    exact toInt_div_samples32 _ _

/-! ## Order -/

/-- The square of each mean is at most the mean of the squares, and each mean lies between the
smallest and the largest reading. -/
structure MeansOrdered (q : Quotients) (mean : UInt32 × Int32) (w : List Sample) : Prop where
  voltageRms : mean.1.toNat ^ 2 ≤ q.voltageRms.toNat
  currentRms : mean.2.toInt ^ 2 ≤ q.currentRms.toInt
  voltage : ∃ lo hi, IsLeast {n | n ∈ voltages w} lo ∧ IsGreatest {n | n ∈ voltages w} hi ∧
    lo ≤ mean.1.toNat ∧ mean.1.toNat ≤ hi
  current : ∃ lo hi, IsLeast {n | n ∈ currents w} lo ∧ IsGreatest {n | n ∈ currents w} hi ∧
    lo ≤ mean.2.toInt ∧ mean.2.toInt ≤ hi

/-- A truncated mean lies between the least and the greatest item. -/
theorem tmean_between {xs : List ℤ} (hne : xs ≠ []) {a b : ℤ} (hbounds : ∀ x ∈ xs, a ≤ x ∧ x ≤ b) :
    ∃ lo hi, IsLeast {n | n ∈ xs} lo ∧ IsGreatest {n | n ∈ xs} hi ∧
      lo ≤ xs.tmean ∧ xs.tmean ≤ hi := by
  have hleast := List.foldl_min_isLeast hne fun x hx => (hbounds x hx).2
  have hgreatest := List.foldl_max_isGreatest hne fun x hx => (hbounds x hx).1
  exact ⟨_, _, hleast, hgreatest, List.le_tmean hne fun x hx => hleast.2 hx,
    List.tmean_le hne fun x hx => hgreatest.2 hx⟩

theorem QuotientsExact.meansOrdered {q : Quotients} {w : List Sample} (h : QuotientsExact q w)
    (hw : w ≠ []) {mean : UInt32 × Int32} (hmean : mean ∈ q.means) : MeansOrdered q mean w where
  voltageRms := by
    have hsq : (voltages w).tmean ^ 2 ≤ (voltages w).tmeanSq :=
      List.sq_tmean_le_tmeanSq (by simpa [voltages] using hw)
    rw [← h.voltageRms, ← h.voltageMean mean hmean] at hsq
    exact_mod_cast hsq
  currentRms := by
    rw [h.currentRms, h.currentMean mean hmean]
    exact List.sq_tmean_le_tmeanSq (by simpa [currents] using hw)
  voltage := by
    rw [h.voltageMean mean hmean]
    refine tmean_between (a := 0) (b := 65535) (by simpa [voltages] using hw) fun n hn => ?_
    obtain ⟨x, -, rfl⟩ := List.mem_map.1 hn
    have := x.v.toNat_lt
    omega
  current := by
    rw [h.currentMean mean hmean]
    refine tmean_between (a := -2 ^ 15) (b := 2 ^ 15) (by simpa [currents] using hw) fun n hn => ?_
    obtain ⟨x, -, rfl⟩ := List.mem_map.1 hn
    exact ⟨x.i.le_toInt, x.i.toInt_lt.le⟩

/-- In every run of a channel, for an averaging window of 1 to 65535 samples: the divisions of
`lcd_eadog_create_menu` are defined, the means are among them on page 1, and there each mean squared
is at most the mean of the squares and each mean lies between the smallest and the largest
reading. -/
theorem quotients_ordered {p : Port} {ops : List ChannelOp} {d : DisplayData} {log : ChannelLog}
    (hcount : ∀ x, .frame x ∈ ops → x.count.toNat ≤ 60)
    (hrun : (channel p).run (.start p) ops = some (d, log))
    (hne : 1 ≤ (averagingWindow log).length) (hlen : (averagingWindow log).length ≤ 65535) :
    ∃ q, menuQuotients d = some q ∧ (q.means.isSome ↔ d.menuPos = 1) ∧
      ∀ mean ∈ q.means, MeansOrdered q mean (averagingWindow log) := by
  have hsums := sums_of_run hcount hrun
  have hdefined : (menuQuotients d).isSome := by
    rw [menuQuotients_isSome_iff, hsums.samples_ne_zero_iff]
    intro hdvd
    have := Nat.le_of_dvd hne hdvd
    omega
  obtain ⟨q, hq⟩ := Option.isSome_iff_exists.1 hdefined
  obtain ⟨-, -, -, hpage, -⟩ := menuQuotients_eq_some hq
  have hexact := quotientsExact_of_averages (hsums.exact_of_length_le hlen) hq
  exact ⟨q, hq, hpage, fun mean hmean => hexact.meansOrdered (List.length_pos_iff.1 hne) hmean⟩

/-- Three samples, drawn on page 1. -/
theorem quotients_ordered_samplesFrame :
    ∃ d log q mean, (channel .one).run (.start .one)
        [.setMenuPos 1, .frame scaleFrame, .frame samplesFrame] = some (d, log) ∧
      averagingWindow log = [⟨300, 200⟩, ⟨100, -100⟩, ⟨10, 5⟩] ∧
      menuQuotients d = some q ∧ mean ∈ q.means ∧ MeansOrdered q mean (averagingWindow log) := by
  obtain ⟨d, log, hrun, hwindow, hpage⟩ : ∃ d log, (channel .one).run (.start .one)
      [.setMenuPos 1, .frame scaleFrame, .frame samplesFrame] = some (d, log) ∧
        averagingWindow log = [⟨300, 200⟩, ⟨100, -100⟩, ⟨10, 5⟩] ∧ d.menuPos = 1 :=
    ⟨_, _, rfl, rfl, rfl⟩
  have hcount (x : Dispatch)
      (hx : .frame x ∈ [ChannelOp.setMenuPos 1, .frame scaleFrame, .frame samplesFrame]) :
      x.count.toNat ≤ 60 := by
    simp only [List.mem_cons, ChannelOp.frame.injEq, List.not_mem_nil, or_false, reduceCtorEq,
      false_or] at hx
    rcases hx with rfl | rfl <;> decide
  obtain ⟨q, hq, hmeans, hordered⟩ := quotients_ordered hcount hrun (by rw [hwindow]; decide)
    (by rw [hwindow]; decide)
  obtain ⟨mean, hmean⟩ := Option.isSome_iff_exists.1 (hmeans.2 hpage)
  exact ⟨d, log, q, mean, hrun, hwindow, hq, hmean, hordered mean hmean⟩

end PowerMeterDisplay

import PowerMeterDisplay.Sessions

/-!
# The peak power

`peak_pow` should keep the product of largest magnitude with its sign.  The product is computed from
an unsigned and a signed operand of 16 bits before it is widened, so it is the remainder of the
exact product modulo 65536 (`Sample.product16_eq`), and `peak_pow` is the largest remainder.
`peakPow_exact_iff` says when that is the peak.
-/

namespace PowerMeterDisplay

namespace Sample

/-- The exact product. -/
def product (x : Sample) : ℤ := x.v.toNat * x.i.toInt

theorem product16_eq (x : Sample) : (x.product16.toNat : ℤ) = x.product % 65536 := by
  have hi : x.i.toInt % 65536 = (x.i.toUInt16.toNat : ℤ) % 65536 := by
    change x.i.toBitVec.toInt % 65536 = _
    rw [BitVec.toInt_eq_toNat_bmod]
    exact Int.bmod_emod
  rw [product16, UInt16.toNat_mul, product, Int.mul_emod, hi, ← Int.mul_emod]
  push_cast
  rfl

end Sample

/-- The product of the first sample of largest magnitude, zero without a sample. -/
def truePeak (w : List Sample) : ℤ :=
  ((w.argmax fun x => x.product.natAbs).map Sample.product).getD 0

/-- The peak is the product of a sample and no product is larger in magnitude. -/
theorem truePeak_spec {w : List Sample} (hw : w ≠ []) :
    ∃ x ∈ w, x.product = truePeak w ∧ ∀ y ∈ w, y.product.natAbs ≤ (truePeak w).natAbs := by
  obtain ⟨x, hx⟩ : ∃ x, x ∈ w.argmax fun x => x.product.natAbs :=
    Option.ne_none_iff_exists'.1 fun h => hw (List.argmax_eq_none.1 h)
  have hpeak : truePeak w = x.product := by
    rw [truePeak, Option.mem_def.1 hx]
    rfl
  refine ⟨x, List.argmax_mem hx, hpeak.symm, fun y hy => ?_⟩
  rw [hpeak]
  exact List.le_of_mem_argmax (f := fun x : Sample => x.product.natAbs) hy hx

/-- The peak fits the 16 bits of the products, and no negative product passes for a larger one. -/
structure PeakFits (w : List Sample) : Prop where
  nonneg : 0 ≤ truePeak w
  le : truePeak w ≤ 65535
  negative : ∀ x ∈ w, x.product < 0 → x.product + 65536 ≤ truePeak w

/-- The largest remainder is the peak exactly when the peak fits. -/
theorem Extremes.peakPow_eq_truePeak_iff {d : DisplayData} {w : List Sample} (h : Extremes d w) :
    d.peakPow.toInt = truePeak w ↔ PeakFits w := by
  rw [h.peakPow]
  rcases eq_or_ne w [] with rfl | hw
  · exact iff_of_true rfl ⟨le_rfl, by decide, fun x hx => absurd hx List.not_mem_nil⟩
  set peak := (w.map fun x => x.product16.toNat).foldl max 0
  obtain ⟨hmem, hgreatest⟩ : IsGreatest {n | n ∈ w.map fun x => x.product16.toNat} peak :=
    List.foldl_max_isGreatest (by simpa using hw) fun n _ => Nat.zero_le n
  have hle (x : Sample) (hx : x ∈ w) : x.product % 65536 ≤ peak := by
    rw [← x.product16_eq]
    exact_mod_cast hgreatest (List.mem_map_of_mem hx)
  obtain ⟨y, hy, hypeak⟩ : ∃ y ∈ w, y.product % 65536 = peak := by
    obtain ⟨y, hy, hypeak⟩ := List.mem_map.1 hmem
    exact ⟨y, hy, by rw [← y.product16_eq, hypeak]⟩
  obtain ⟨z, hz, hzpeak, hlargest⟩ := truePeak_spec hw
  constructor
  · intro heq
    refine ⟨by omega, by omega, fun x hx hneg => ?_⟩
    have := hle x hx
    have := hlargest x hx
    omega
  · rintro ⟨hnonneg, hfits, hnegative⟩
    have := hle z hz
    have := hlargest y hy
    have := hnegative y hy
    omega

/-- In every run of a channel `peak_pow` is the peak of the session, with its sign, if and only if
the peak fits the unsigned 16 bits of the products and no negative product passes for a larger
one. -/
theorem peakPow_exact_iff {p : Port} {ops : List ChannelOp} {d : DisplayData} {log : ChannelLog}
    (hcount : ∀ x, .frame x ∈ ops → x.count.toNat ≤ 60)
    (hrun : (channel p).run (.start p) ops = some (d, log)) :
    d.peakPow.toInt = truePeak (session log) ↔ PeakFits (session log) :=
  (extremes_of_run hcount hrun).peakPow_eq_truePeak_iff

theorem peakPow_exact_iff_rescaled :
    ∃ d log, (channel .one).run (.start .one) rescaled = some (d, log) ∧
      session log = [⟨300, 200⟩, ⟨100, -100⟩, ⟨10, 5⟩] ∧
      (d.peakPow.toInt = truePeak (session log) ↔ PeakFits (session log)) := by
  obtain ⟨hcount, d, log, hrun, hsession, -⟩ := rescaled_taken
  exact ⟨d, log, hrun, hsession, peakPow_exact_iff hcount hrun⟩

/-- The sample `v = 1`, `i = -1` makes a peak of 65535. -/
theorem peakPow_of_negative_product :
    ∃ d log, (channel .one).run (.start .one) [.frame scaleFrame, .frame dataFrame] =
        some (d, log) ∧
      session log = [⟨1, -1⟩] ∧ truePeak (session log) = -1 ∧ d.peakPow.toInt = 65535 ∧
      d.peakPow.toInt ≠ truePeak (session log) := by
  obtain ⟨d, log, hrun, hsession, hpeak⟩ : ∃ d log, (channel .one).run (.start .one)
      [.frame scaleFrame, .frame dataFrame] = some (d, log) ∧
        session log = [⟨1, -1⟩] ∧ d.peakPow = 65535 := ⟨_, _, rfl, rfl, rfl⟩
  have htrue : truePeak (session log) = -1 := by rw [hsession]; rfl
  have hrecord : d.peakPow.toInt = 65535 := by rw [hpeak]; rfl
  exact ⟨d, log, hrun, hsession, htrue, hrecord, by rw [htrue, hrecord]; decide⟩

end PowerMeterDisplay

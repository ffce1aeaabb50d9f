import Mathlib.Data.NNRat.Floor
import Mathlib.Tactic.IntervalCases
import PowerMeterDisplay.Lib.Narrow

/-!
# The bar graphs of menu page 3

Page 3 of `lcd_eadog_create_menu` shows the voltage and the current as rows of eight cells.  A row
should light `barCells` cells: one for each eighth of full scale, eight from full scale on.  The
readings are exact non-negative rationals here, in place of the floats of the code.  The voltage row
loses whole turns of 32 times full scale in its 8-bit `span`; the current row does so too, and its
loop lights the cell behind `span` as well.  `bars_obey_iff` says when both rows are right.
-/

namespace PowerMeterDisplay

open Narrow

/-! ## The rows -/

/-- The conversion of a reading to `uint8_t`. -/
def toUint8 (x : ℚ≥0) : UInt8 := UInt8.ofNat ⌊x⌋₊

/-- The loop over the eight cells of a row: a lit cell shows its own character, the others a
space. -/
def writeCells (lit : UInt8 → Bool) : List UInt8 :=
  (List.range 8).map fun i => if lit (UInt8.ofNat i) then UInt8.ofNat i else 0x20

/-- The row of the voltage, between its label and `26V`. -/
def voltageRow (uRms : ℚ≥0) : List UInt8 :=
  let span := toUint8 (uRms / 3.25)
  writeCells fun i => i < span

/-- The row of the current, between its label and the full scale. -/
def currentRow (scaleC iRms : ℚ≥0) : List UInt8 :=
  let maxI := 4096 * scaleC
  let span := toUint8 (8 / maxI * iRms)
  writeCells fun i => i ≤ span

/-- The number of lit cells of a row. -/
def litCells (row : List UInt8) : ℕ := row.countP fun c => c ≠ 0x20

/-! ## The law -/

/-- The number of cells that a row should light at a reading. -/
def barCells (reading fullScale : ℚ≥0) : ℕ := min 8 ⌊8 * reading / fullScale⌋₊

theorem barCells_zero (fullScale : ℚ≥0) : barCells 0 fullScale = 0 := by
  rw [barCells, mul_zero, zero_div, Nat.floor_zero, Nat.min_zero]

theorem barCells_eq_eight {reading fullScale : ℚ≥0} (hpos : 0 < fullScale)
    (h : fullScale ≤ reading) : barCells reading fullScale = 8 := by
  have height : 8 ≤ ⌊8 * reading / fullScale⌋₊ := by
    refine Nat.le_floor ((le_div_iff₀ hpos).2 ?_)
    exact mul_le_mul_right h 8
  exact min_eq_left height

theorem barCells_mono {reading reading' : ℚ≥0} (h : reading ≤ reading') (fullScale : ℚ≥0) :
    barCells reading fullScale ≤ barCells reading' fullScale := by
  unfold barCells
  gcongr

/-- A row obeys the law at a reading. -/
structure RowObeys (row : List UInt8) (reading fullScale : ℚ≥0) : Prop where
  cells : litCells row = barCells reading fullScale
  zero : reading = 0 → litCells row = 0
  full : fullScale ≤ reading → litCells row = 8

/-- Both rows obey the law, and the same fraction of full scale lights the same number of cells. -/
structure BarsObey (scaleC uRms iRms : ℚ≥0) : Prop where
  voltage : RowObeys (voltageRow uRms) uRms 26
  current : RowObeys (currentRow scaleC iRms) iRms (4096 * scaleC)
  same : uRms / 26 = iRms / (4096 * scaleC) →
    litCells (voltageRow uRms) = litCells (currentRow scaleC iRms)

theorem rowObeys_iff {row : List UInt8} {reading fullScale : ℚ≥0} (hpos : 0 < fullScale) :
    RowObeys row reading fullScale ↔ litCells row = barCells reading fullScale := by
  refine ⟨fun h => h.cells, fun h => ⟨h, fun hzero => ?_, fun hfull => ?_⟩⟩
  · rw [h, hzero, barCells_zero]
  · rw [h, barCells_eq_eight hpos hfull]

theorem barsObey_iff {scaleC : ℚ≥0} (hscale : 0 < scaleC) (uRms iRms : ℚ≥0) :
    BarsObey scaleC uRms iRms ↔
      litCells (voltageRow uRms) = barCells uRms 26 ∧
        litCells (currentRow scaleC iRms) = barCells iRms (4096 * scaleC) := by
  have hfull : 0 < 4096 * scaleC := mul_pos (by norm_num) hscale
  constructor
  · exact fun h => ⟨h.voltage.cells, h.current.cells⟩
  · rintro ⟨hvoltage, hcurrent⟩
    refine ⟨(rowObeys_iff (by norm_num)).2 hvoltage, (rowObeys_iff hfull).2 hcurrent,
      fun hsame => ?_⟩
    rw [hvoltage, hcurrent, barCells, barCells, mul_div_assoc, mul_div_assoc, hsame]

/-- Where the rows obey the law, a larger reading lights no fewer cells. -/
theorem BarsObey.mono {scaleC uRms uRms' iRms iRms' : ℚ≥0} (h : BarsObey scaleC uRms iRms)
    (h' : BarsObey scaleC uRms' iRms') (hu : uRms ≤ uRms') (hi : iRms ≤ iRms') :
    litCells (voltageRow uRms) ≤ litCells (voltageRow uRms') ∧
      litCells (currentRow scaleC iRms) ≤ litCells (currentRow scaleC iRms') := by
  rw [h.voltage.cells, h'.voltage.cells, h.current.cells, h'.current.cells]
  exact ⟨barCells_mono hu _, barCells_mono hi _⟩

/-! ## Lit cells -/

theorem countP_range_lt (n k : ℕ) : (List.range n).countP (fun i => i < k) = min n k := by
  induction n with
  | zero => rw [List.range_zero, List.countP_nil, Nat.zero_min]
  | succ n ih =>
    rw [List.range_succ, List.countP_append, ih, List.countP_singleton]
    split_ifs with h
    · have h : n < k := of_decide_eq_true h
      omega
    · have h : ¬ n < k := fun hlt => h (decide_eq_true hlt)
      omega

/-- The first `k` cells are lit. -/
theorem litCells_writeCells {lit : UInt8 → Bool} {k : ℕ}
    (h : ∀ i < 8, lit (UInt8.ofNat i) = true ↔ i < k) : litCells (writeCells lit) = min 8 k := by
  rw [litCells, writeCells, List.countP_map, ← countP_range_lt]
  refine List.countP_congr fun i hi => ?_
  have hi : i < 8 := List.mem_range.1 hi
  have hcell : UInt8.ofNat i ≠ 0x20 := by
    interval_cases i <;> decide
  by_cases hlit : lit (UInt8.ofNat i)
  · simp [hlit, hcell, (h i hi).1 hlit]
  · simp [hlit, mt (h i hi).2 hlit]

theorem toNat_toUint8 (x : ℚ≥0) : (toUint8 x).toNat = narrow 256 x := UInt8.toNat_ofNat'

theorem litCells_voltageRow (uRms : ℚ≥0) :
    litCells (voltageRow uRms) = min 8 (narrow 256 (8 * (uRms / 26))) := by
  have hspan : uRms / 3.25 = 8 * (uRms / 26) := by ring
  rw [voltageRow]
  refine litCells_writeCells fun i hi => ?_
  rw [decide_eq_true_iff, UInt8.lt_iff_toNat_lt, toNat_toUint8, hspan,
    UInt8.toNat_ofNat_of_lt' (by change i < 256; omega)]

theorem litCells_currentRow (scaleC iRms : ℚ≥0) :
    litCells (currentRow scaleC iRms) =
      min 8 (narrow 256 (8 * (iRms / (4096 * scaleC))) + 1) := by
  have hspan : 8 / (4096 * scaleC) * iRms = 8 * (iRms / (4096 * scaleC)) := by ring
  rw [currentRow]
  refine litCells_writeCells fun i hi => ?_
  rw [decide_eq_true_iff, UInt8.le_iff_toNat_le, toNat_toUint8, hspan,
    UInt8.toNat_ofNat_of_lt' (by change i < 256; omega), Nat.lt_succ_iff]

/-! ## When the rows obey the law -/

theorem eight_le_floor_iff (q : ℚ≥0) : 8 ≤ ⌊8 * q⌋₊ ↔ 1 ≤ q := by
  rw [Nat.le_floor_iff' (by decide)]
  exact le_mul_iff_one_le_right (by norm_num)

/-- A number of eighths above the last multiple of 32 times full scale. -/
theorem le_narrow_eighths_iff {j : ℕ} (hj : j ≠ 0) (q : ℚ≥0) :
    j ≤ narrow 256 (8 * q) ↔ (j : ℚ≥0) / 8 ≤ residue 32 q := by
  have hturn : residue 256 (8 * q) = 8 * residue 32 q := by
    exact_mod_cast residue_mul (a := 8) (by decide) 32 q
  rw [le_narrow_iff hj, hturn, div_le_iff₀' (by norm_num)]

/-- The voltage row is right up to 32 times full scale, and behind each multiple of that from full
scale on. -/
theorem litCells_voltageRow_iff (uRms : ℚ≥0) :
    litCells (voltageRow uRms) = barCells uRms 26 ↔
      uRms / 26 < 1 ∨ 1 ≤ residue 32 (uRms / 26) := by
  have hbelow : uRms / 26 < 1 ↔ ¬ 8 ≤ ⌊8 * (uRms / 26)⌋₊ := by
    rw [eight_le_floor_iff, not_le]
  have habove : 1 ≤ residue 32 (uRms / 26) ↔ 8 ≤ narrow 256 (8 * (uRms / 26)) := by
    rw [le_narrow_eighths_iff (by decide), Nat.cast_ofNat, div_self (by norm_num)]
  rw [litCells_voltageRow, barCells, mul_div_assoc, hbelow, habove, narrow]
  omega

/-- The current row lights a cell too many, so it is right only where it is full anyway. -/
theorem litCells_currentRow_iff (scaleC iRms : ℚ≥0) :
    litCells (currentRow scaleC iRms) = barCells iRms (4096 * scaleC) ↔
      1 ≤ iRms / (4096 * scaleC) ∧ 7 / 8 ≤ residue 32 (iRms / (4096 * scaleC)) := by
  have habove : 7 / 8 ≤ residue 32 (iRms / (4096 * scaleC)) ↔
      7 ≤ narrow 256 (8 * (iRms / (4096 * scaleC))) :=
    (le_narrow_eighths_iff (by decide) _).symm
  rw [litCells_currentRow, barCells, mul_div_assoc, ← eight_le_floor_iff, habove, narrow]
  omega

/-- For all readings and every current scale: both rows obey the law if and only if the voltage is
below full scale or at least full scale above a multiple of 32 times full scale, and the current is
not below full scale and at least seven eighths of it above such a multiple. -/
theorem bars_obey_iff {scaleC : ℚ≥0} (hscale : 0 < scaleC) (uRms iRms : ℚ≥0) :
    BarsObey scaleC uRms iRms ↔
      (uRms / 26 < 1 ∨ 1 ≤ residue 32 (uRms / 26)) ∧
        1 ≤ iRms / (4096 * scaleC) ∧ 7 / 8 ≤ residue 32 (iRms / (4096 * scaleC)) := by
  rw [barsObey_iff hscale, litCells_voltageRow_iff, litCells_currentRow_iff]

/-- Both readings at full scale. -/
theorem bars_obey_iff_full : BarsObey 1 26 4096 := by
  have hfull : (4096 : ℚ≥0) / (4096 * 1) = 1 := by norm_num
  have hone : residue 32 (1 : ℚ≥0) = 1 := by
    rw [residue, Nat.floor_eq_zero.2 (by norm_num), Nat.cast_zero, mul_zero, tsub_zero]
  refine (bars_obey_iff one_pos 26 4096).2 ?_
  rw [hfull, div_self (by norm_num), hone]
  exact ⟨Or.inr le_rfl, le_rfl, div_le_one_of_le₀ (by norm_num) (by norm_num)⟩

/-- Without any current one cell of its row is lit, and at 32 times full scale the row of the
voltage is dark. -/
theorem bars_disobey :
    litCells (currentRow 1 0) = 1 ∧ barCells 0 (4096 * 1) = 0 ∧ ¬ BarsObey 1 0 0 ∧
      litCells (voltageRow 832) = 0 ∧ barCells 832 26 = 8 ∧ ¬ BarsObey 1 832 4096 := by
  have hcurrent : litCells (currentRow 1 0) = 1 := by
    rw [litCells_currentRow, zero_div, mul_zero, narrow, Nat.floor_zero]
    rfl
  have hturn : (8 * (832 / 26) : ℚ≥0) = (256 : ℕ) := by norm_num
  have hvoltage : litCells (voltageRow 832) = 0 := by
    rw [litCells_voltageRow, narrow, hturn, Nat.floor_natCast]
    rfl
  have hfull : barCells 832 26 = 8 := barCells_eq_eight (by norm_num) (by norm_num)
  refine ⟨hcurrent, barCells_zero _, fun h => ?_, hvoltage, hfull, fun h => ?_⟩
  · exact absurd (hcurrent.symm.trans (h.current.zero rfl)) (by decide)
  · exact absurd (hvoltage.symm.trans (h.voltage.cells.trans hfull)) (by decide)

end PowerMeterDisplay

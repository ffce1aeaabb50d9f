import Mathlib.Tactic.Common

/-!
# The display record

`struct display_data` with its two reset routines and what `lcd_eadog_create_menu` does to it.
There is one record for each RS485 port.  The scale values are floats; they are only stored, copied
and compared, so they are kept as their 32-bit patterns.
-/

namespace PowerMeterDisplay

/-! ## Ports -/

/-- The two RS485 ports.  Port `one` feeds `lcd_data[0]`, port `two` feeds `lcd_data[1]`. -/
inductive Port where
  | one
  | two
  deriving DecidableEq, Repr

namespace Port

/-- The code of `measure` and of `display` for a port that is shown. -/
def active : Port → UInt8
  | one => 1
  | two => 2

/-- The code of `measure` for a port that is disabled. -/
def disabled : Port → UInt8
  | one => 10
  | two => 20

def other : Port → Port
  | one => two
  | two => one

end Port

/-- One value for each port. -/
structure PerPort (α : Type) where
  one : α
  two : α
  deriving DecidableEq, Repr

namespace PerPort

variable {α : Type}

def get (x : PerPort α) : Port → α
  | .one => x.one
  | .two => x.two

def set (x : PerPort α) (p : Port) (a : α) : PerPort α :=
  match p with
  | .one => { x with one := a }
  | .two => { x with two := a }

@[simp] theorem get_set_self (x : PerPort α) (p : Port) (a : α) : (x.set p a).get p = a := by
  cases p <;> rfl

theorem get_set_of_ne (x : PerPort α) {p q : Port} (h : q ≠ p) (a : α) :
    (x.set p a).get q = x.get q := by
  cases p <;> cases q <;> first | rfl | exact absurd rfl h

@[simp] theorem set_get_self (x : PerPort α) (p : Port) : x.set p (x.get p) = x := by
  cases p <;> rfl

@[simp] theorem set_set (x : PerPort α) (p : Port) (a b : α) : (x.set p a).set p b = x.set p b := by
  cases p <;> rfl

end PerPort

/-! ## Floats as bit patterns -/

/-- The bit pattern of a C `float`. -/
abbrev FloatBits := UInt32

namespace FloatBits

def isNaN (x : FloatBits) : Bool := 0x7f800000 < x &&& 0x7fffffff

def isZero (x : FloatBits) : Bool := x &&& 0x7fffffff = 0

/-- The C comparison `x != y`: a NaN differs from everything, and the two zeros are equal. -/
def ne (x y : FloatBits) : Bool :=
  isNaN x || isNaN y || (x != y && !(isZero x && isZero y))

/-- Two values compare equal when they are no NaN and have the same bits or are both zero. -/
theorem ne_eq_false_iff {x y : FloatBits} :
    ne x y = false ↔
      isNaN x = false ∧ isNaN y = false ∧ (x = y ∨ isZero x = true ∧ isZero y = true) := by
  simp only [ne, Bool.or_eq_false_iff, Bool.and_eq_false_iff, bne_eq_false_iff_eq,
    Bool.not_eq_false', Bool.and_eq_true, and_assoc]

end FloatBits

/-! ## The record -/

/-- `struct display_data`. -/
structure DisplayData where
  menuPos : UInt8
  measure : UInt8
  hallActive : UInt8
  voltageRms : UInt64
  currentRms : Int64
  voltageMean : UInt32
  currentMean : Int32
  samples : UInt16
  scaleV : FloatBits
  scaleC : FloatBits
  minV : UInt16
  maxV : UInt16
  minI : Int16
  maxI : Int16
  maxPow : Int32
  peakPow : Int32
  deriving DecidableEq, Repr

/-- Static storage starts out as zeros. -/
def DisplayData.zero : DisplayData where
  menuPos := 0
  measure := 0
  hallActive := 0
  voltageRms := 0
  currentRms := 0
  voltageMean := 0
  currentMean := 0
  samples := 0
  scaleV := 0
  scaleC := 0
  minV := 0
  maxV := 0
  minI := 0
  maxI := 0
  maxPow := 0
  peakPow := 0

def lcdEadogResetData (d : DisplayData) (measure : UInt8) : DisplayData :=
  { d with
    currentRms := 0
    voltageRms := 0
    currentMean := 0
    voltageMean := 0
    samples := 0
    maxI := Int16.minValue
    maxV := 0
    minI := Int16.maxValue
    minV := 0xffff
    peakPow := 0
    measure := measure }

def lcdEadogResetMinmax (d : DisplayData) : DisplayData :=
  { d with
    maxI := Int16.minValue
    maxV := 0
    minI := Int16.maxValue
    minV := 0xffff
    peakPow := 0 }

/-- The record after `lcd_eadog_create_menu`: the early return leaves it alone, drawing a menu page
closes the averaging window. -/
def lcdEadogCreateMenu (d : DisplayData) : DisplayData :=
  if d.measure > 2 then d
  else
    { d with
      voltageMean := 0
      voltageRms := 0
      currentMean := 0
      currentRms := 0
      maxPow := 0
      samples := 0 }

theorem lcdEadogCreateMenu_measure (d : DisplayData) :
    (lcdEadogCreateMenu d).measure = d.measure := by
  unfold lcdEadogCreateMenu
  split_ifs <;> rfl

theorem lcdEadogCreateMenu_menuPos (d : DisplayData) :
    (lcdEadogCreateMenu d).menuPos = d.menuPos := by
  unfold lcdEadogCreateMenu
  split_ifs <;> rfl

/-- The integer quotients that `lcd_eadog_create_menu` scales and prints; it divides the means on
page 1 only. -/
structure Quotients where
  voltageRms : UInt64
  currentRms : Int64
  means : Option (UInt32 × Int32)
  deriving DecidableEq, Repr

/-- The divisions by `samples` of `lcd_eadog_create_menu`; `none` is a division by zero. -/
def menuQuotients (d : DisplayData) : Option Quotients :=
  if d.samples = 0 then none
  else
    some
      { voltageRms := d.voltageRms / d.samples.toUInt64
        currentRms := d.currentRms / d.samples.toUInt64.toInt64
        means :=
          if d.menuPos = 1 then
            some (d.voltageMean / d.samples.toUInt32, d.currentMean / d.samples.toUInt32.toInt32)
          else none }

theorem menuQuotients_isSome_iff (d : DisplayData) :
    (menuQuotients d).isSome ↔ d.samples ≠ 0 := by
  unfold menuQuotients
  split_ifs with h <;> simp [h]

/-- The quotients, and the page on which the means are among them. -/
theorem menuQuotients_eq_some {d : DisplayData} {q : Quotients} (h : menuQuotients d = some q) :
    d.samples ≠ 0 ∧ q.voltageRms = d.voltageRms / d.samples.toUInt64 ∧
      q.currentRms = d.currentRms / d.samples.toUInt64.toInt64 ∧
      (q.means.isSome ↔ d.menuPos = 1) ∧
      ∀ m ∈ q.means,
        m = (d.voltageMean / d.samples.toUInt32, d.currentMean / d.samples.toUInt32.toInt32) := by
  unfold menuQuotients at h
  by_cases hzero : d.samples = 0
  · rw [if_pos hzero] at h
    exact nomatch h
  rw [if_neg hzero] at h
  obtain rfl := Option.some.inj h
  by_cases hpage : d.menuPos = 1
  · simp only [hpage, if_true]
    exact ⟨hzero, trivial, trivial, by simp, fun m hm => (Option.some.inj hm).symm⟩
  · simp only [hpage, if_false]
    exact ⟨hzero, trivial, trivial, by simp, fun m hm => absurd hm (Option.not_mem_none m)⟩

/-- The record of a port when the main loop starts. -/
def DisplayData.start (p : Port) : DisplayData := lcdEadogResetData .zero p.disabled

end PowerMeterDisplay

import Mathlib.Data.List.Range
import Mathlib.Logic.Function.Basic
import Mathlib.Tactic.Common

/-!
# A memory that is written through a page buffer

Values are loaded into a buffer by their offset in a page; a write then stores what is loaded and
leaves the rest of the page alone.  An offset that is loaded twice holds both values combined, so a
page is written as it was loaded only into a flushed buffer (`cells_writePage`).
-/

/-- Cells, and the values loaded for the offsets of a page. -/
@[ext]
structure PagedMemory (α : Type*) where
  cells : ℕ → α
  buffer : ℕ → Option α

namespace PagedMemory

variable {α : Type*}

def flush (m : PagedMemory α) : PagedMemory α := { m with buffer := fun _ => none }

/-- Load a value for an offset. -/
def load (combine : α → α → α) (m : PagedMemory α) (i : ℕ) (a : α) : PagedMemory α :=
  { m with buffer := Function.update m.buffer i (some ((m.buffer i).elim a (combine · a))) }

/-- Load the first `n` offsets. -/
def loadPage (combine : α → α → α) (m : PagedMemory α) (n : ℕ) (values : ℕ → α) : PagedMemory α :=
  (List.range n).foldl (fun m i => m.load combine i (values i)) m

/-- Store the loaded values of the first `n` offsets where they have their places. -/
def writePage (m : PagedMemory α) (n : ℕ) (place : ℕ → ℕ) : PagedMemory α where
  cells := (List.range n).foldl
    (fun cells i => (m.buffer i).elim cells (Function.update cells (place i))) m.cells
  buffer := fun _ => none

variable {combine : α → α → α} {m : PagedMemory α} {n : ℕ}

theorem cells_loadPage (values : ℕ → α) : (m.loadPage combine n values).cells = m.cells := by
  induction n with
  | zero => rfl
  | succ n ih =>
    rw [loadPage, List.range_succ, List.foldl_append]
    exact ih

/-- A flushed buffer holds the values as they were loaded. -/
theorem buffer_loadPage (hflushed : ∀ i, m.buffer i = none) (values : ℕ → α) (i : ℕ) :
    (m.loadPage combine n values).buffer i = if i < n then some (values i) else none := by
  induction n generalizing i with
  | zero => exact hflushed i
  | succ n ih =>
    have hstep : (m.loadPage combine (n + 1) values).buffer =
        ((m.loadPage combine n values).load combine n (values n)).buffer := by
      rw [loadPage, List.range_succ, List.foldl_append]
      rfl
    have hfree : (m.loadPage combine n values).buffer n = none := by
      rw [ih, if_neg (Nat.lt_irrefl n)]
    rw [hstep, load, hfree]
    show Function.update _ n _ i = _
    rw [Function.update_apply]
    by_cases hi : i = n
    · rw [if_pos hi, if_pos (by omega), hi]
      rfl
    · rw [if_neg hi, ih]
      simp only [show i < n + 1 ↔ i < n by omega]

theorem writePage_succ (place : ℕ → ℕ) :
    (m.writePage (n + 1) place).cells =
      (m.buffer n).elim (m.writePage n place).cells
        (Function.update (m.writePage n place).cells (place n)) := by
  rw [writePage, List.range_succ, List.foldl_append]
  rfl

/-- The cells outside the page are as they were. -/
theorem cells_writePage_of_ne {place : ℕ → ℕ} {k : ℕ} (hk : ∀ i < n, k ≠ place i) :
    (m.writePage n place).cells k = m.cells k := by
  induction n with
  | zero => rfl
  | succ n ih =>
    have hrest := ih fun i hi => hk i (by omega)
    rw [writePage_succ]
    cases m.buffer n with
    | none => exact hrest
    | some a => exact (Function.update_of_ne (hk n (by omega)) ..).trans hrest

/-- If the places differ, each loaded value is in its place. -/
theorem cells_writePage {place : ℕ → ℕ} (hplace : ∀ i < n, ∀ j < n, place i = place j → i = j)
    {i : ℕ} (hi : i < n) {a : α} (ha : m.buffer i = some a) :
    (m.writePage n place).cells (place i) = a := by
  induction n with
  | zero => exact absurd hi (Nat.not_lt_zero i)
  | succ n ih =>
    rw [writePage_succ]
    by_cases hlast : i = n
    · rw [← hlast, ha]
      exact Function.update_self ..
    · have hrest := ih (fun i hi j hj => hplace i (by omega) j (by omega)) (by omega)
      have hne : place i ≠ place n := fun h => hlast (hplace i hi n (by omega) h)
      cases m.buffer n with
      | none => exact hrest
      | some b => exact (Function.update_of_ne hne ..).trans hrest

end PagedMemory

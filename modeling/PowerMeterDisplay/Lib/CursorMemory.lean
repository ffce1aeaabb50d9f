import Mathlib.Data.List.GetD
import Mathlib.Logic.Function.Basic
import Mathlib.Tactic.Common

/-!
# A memory with a cursor

Cells at addresses, and a cursor that moves on behind every item that is put.  How it moves is a
parameter.  Where it moves by one, a list of items stands in the cells from the cursor on
(`cells_putList`), whatever was there before, and all other cells are as they were.
-/

/-- Cells at addresses, with the address of the next item. -/
@[ext]
structure CursorMemory (α : Type*) where
  cells : ℕ → α
  cursor : ℕ

namespace CursorMemory

variable {α : Type*} (next : ℕ → ℕ)

/-- Put an item at the cursor. -/
def put (m : CursorMemory α) (a : α) : CursorMemory α where
  cells := Function.update m.cells m.cursor a
  cursor := next m.cursor

def putList (m : CursorMemory α) (as : List α) : CursorMemory α := as.foldl (put next) m

/-- The cursor moves by one over the `n` cells from `k` on. -/
def Linear (k n : ℕ) : Prop := ∀ i, i + 1 < n → next (k + i) = k + i + 1

variable {next}

theorem Linear.mono {k n m : ℕ} (h : Linear next k n) (hm : m ≤ n) : Linear next k m :=
  fun i hi => h i (by omega)

theorem Linear.tail {k n : ℕ} (h : Linear next k (n + 2)) :
    next k = k + 1 ∧ Linear next (k + 1) (n + 1) := by
  refine ⟨h 0 (by omega), fun i hi => ?_⟩
  rw [Nat.add_right_comm k 1 i]
  exact h (i + 1) (by omega)

/-- The items stand in the cells from the cursor on, and the other cells are as they were. -/
theorem cells_putList {m : CursorMemory α} {as : List α} (h : Linear next m.cursor as.length)
    (k : ℕ) :
    (m.putList next as).cells k =
      if m.cursor ≤ k then as.getD (k - m.cursor) (m.cells k) else m.cells k := by
  induction as generalizing m with
  | nil => simp [putList]
  | cons a as ih =>
    rw [putList, List.foldl_cons, ← putList]
    have hcells : (m.put next a).cells k = if k = m.cursor then a else m.cells k :=
      Function.update_apply ..
    cases as with
    | nil =>
      rw [putList, List.foldl_nil, hcells]
      rcases Nat.lt_trichotomy k m.cursor with hk | rfl | hk
      · rw [if_neg (by omega), if_neg (by omega)]
      · rw [if_pos rfl, if_pos (Nat.le_refl _), Nat.sub_self, List.getD_cons_zero]
      · rw [if_neg (by omega), if_pos (Nat.le_of_lt hk),
          List.getD_eq_default _ _ (by rw [List.length_singleton]; omega)]
    | cons b as =>
      obtain ⟨hnext, htail⟩ := h.tail
      have hcursor : (m.put next a).cursor = m.cursor + 1 := hnext
      rw [ih (by rw [hcursor]; exact htail), hcursor, hcells]
      rcases Nat.lt_trichotomy k m.cursor with hk | rfl | hk
      · rw [if_neg (by omega), if_neg (by omega), if_neg (by omega)]
      · rw [if_neg (by omega), if_pos rfl, if_pos (Nat.le_refl _), Nat.sub_self,
          List.getD_cons_zero]
      · rw [if_pos (by omega), if_neg (by omega), if_pos (Nat.le_of_lt hk),
          show k - m.cursor = k - (m.cursor + 1) + 1 by omega, List.getD_cons_succ]

theorem cells_putList_of_lt {m : CursorMemory α} {as : List α}
    (h : Linear next m.cursor as.length) {k : ℕ} (hk : k < m.cursor) :
    (m.putList next as).cells k = m.cells k := by
  rw [cells_putList h, if_neg (by omega)]

/-- A row of the memory reads back the first of the items that were put from its start on. -/
theorem map_cells_putList {m : CursorMemory α} {as : List α}
    (h : Linear next m.cursor as.length) {n : ℕ} (hn : n ≤ as.length) :
    (List.range n).map (fun i => (m.putList next as).cells (m.cursor + i)) = as.take n := by
  refine List.ext_getElem (by simp [hn]) fun i hi _ => ?_
  have hi : i < as.length := by
    rw [List.length_map, List.length_range] at hi
    omega
  rw [List.getElem_map, List.getElem_range, List.getElem_take, cells_putList h,
    if_pos (Nat.le_add_right ..), Nat.add_sub_cancel_left, List.getD_eq_getElem _ _ hi]

end CursorMemory

import PowerMeterDisplay.Lib.BoundedQueue
import Mathlib.Data.List.Range
import Mathlib.Data.Nat.ModEq

/-!
# Ring buffers with double-range indices

A buffer of `n` cells whose read and write indices run over `2 * n` values: equal indices mean empty
and indices `n` apart mean full, so all `n` cells can be used.  The cell of an index is its residue
modulo `n`.  `contents` reads the queued items off the cells, and `step_refine` shows that the ring
buffer is a bounded queue of capacity `n`.
-/

/-- `n` cells with a read and a write index. -/
@[ext]
structure RingBuffer (α : Type*) (n : ℕ) where
  cells : Fin n → α
  read : ℕ
  write : ℕ

namespace RingBuffer

variable {α : Type*} {n : ℕ}

/-- The index after `k`. -/
def next (n k : ℕ) : ℕ := if k + 1 = 2 * n then 0 else k + 1

/-- The cell an index points to. -/
def slot (n : ℕ) [NeZero n] (k : ℕ) : Fin n := ⟨k % n, Nat.mod_lt _ (Nat.pos_of_neZero n)⟩

/-- The number of queued items. -/
def used (r : RingBuffer α n) : ℕ :=
  if r.read ≤ r.write then r.write - r.read else r.write + 2 * n - r.read

/-- The ring after its oldest item is taken. -/
def drop (r : RingBuffer α n) : RingBuffer α n := { r with read := next n r.read }

/-- Both indices are in range and at most `n` apart. -/
structure Valid (r : RingBuffer α n) : Prop where
  read_lt : r.read < 2 * n
  write_lt : r.write < 2 * n
  used_le : r.used ≤ n

namespace Valid

variable {r : RingBuffer α n} (h : r.Valid)

include h

theorem used_eq_zero_iff : r.used = 0 ↔ r.write = r.read := by
  have := h.read_lt
  unfold used
  split_ifs <;> omega

theorem used_drop (hne : r.write ≠ r.read) : r.drop.used + 1 = r.used := by
  have h₁ := h.read_lt
  have h₂ := h.write_lt
  simp only [used, drop, next]
  split_ifs <;> omega

theorem drop (hne : r.write ≠ r.read) : r.drop.Valid where
  read_lt := by
    have := h.read_lt
    simp only [RingBuffer.drop, next]
    split_ifs <;> omega
  write_lt := h.write_lt
  used_le := by
    have h₁ := h.used_le
    have h₂ := h.used_drop hne
    omega

end Valid

variable [NeZero n]

/-- The queued items, oldest first. -/
def contents (r : RingBuffer α n) : List α :=
  (List.range r.used).map fun k => r.cells (slot n (r.read + k))

/-- Write the cell at the write index and advance it. -/
def push (r : RingBuffer α n) (a : α) : RingBuffer α n :=
  { r with cells := Function.update r.cells (slot n r.write) a, write := next n r.write }

/-- The oldest queued item, when there is one. -/
def head (r : RingBuffer α n) : α := r.cells (slot n r.read)

/-- The ring buffer as a machine whose outputs are the pulled items. -/
def step : Machine (RingBuffer α n) (QueueEvent α) α
  | r, .push a => some (if r.used = n then r else r.push a, [])
  | r, .pull => some (if r.write = r.read then (r, []) else (r.drop, [r.head]))

@[simp] theorem length_contents (r : RingBuffer α n) : r.contents.length = r.used := by
  simp [contents]

theorem slot_add_two_mul (k : ℕ) : slot n (2 * n + k) = slot n k := by
  ext
  simp only [slot, Nat.mul_add_mod_self_right]

/-- Indices less than a whole round apart point to different cells. -/
theorem slot_ne {i j : ℕ} (hij : i < j) (hj : j < i + n) : slot n i ≠ slot n j := by
  intro h
  have hm : i % n = j % n := congrArg Fin.val h
  have hd : n ∣ j - i := (Nat.modEq_iff_dvd' hij.le).1 hm
  have := Nat.le_of_dvd (by omega) hd
  omega

namespace Valid

variable {r : RingBuffer α n} (h : r.Valid)

include h

/-- The write index points to the cell behind the queued items. -/
theorem slot_write : slot n r.write = slot n (r.read + r.used) := by
  have := h.read_lt
  unfold used
  split_ifs with hle
  · rw [Nat.add_sub_cancel' hle]
  · rw [show r.read + (r.write + 2 * n - r.read) = 2 * n + r.write by omega, slot_add_two_mul]

theorem used_push (hf : r.used ≠ n) (a : α) : (r.push a).used = r.used + 1 := by
  have h₁ := h.read_lt
  have h₂ := h.write_lt
  have h₃ := h.used_le
  simp only [used, push, next] at hf h₃ ⊢
  split_ifs at hf h₃ ⊢ <;> omega

theorem push (hf : r.used ≠ n) (a : α) : (r.push a).Valid where
  read_lt := h.read_lt
  write_lt := by
    have := h.write_lt
    simp only [RingBuffer.push, next]
    split_ifs <;> omega
  used_le := by
    have := h.used_le
    rw [h.used_push hf]
    omega

theorem contents_push (hf : r.used ≠ n) (a : α) : (r.push a).contents = r.contents ++ [a] := by
  have hu := h.used_le
  unfold contents
  rw [h.used_push hf, List.range_succ, List.map_append, List.map_singleton]
  congr 1
  · refine List.map_congr_left fun k hk => ?_
    have hk : k < r.used := List.mem_range.1 hk
    have hs : slot n (r.read + k) ≠ slot n r.write := by
      rw [h.slot_write]
      exact slot_ne (by omega) (by omega)
    exact Function.update_of_ne hs _ _
  · have hs : slot n (r.read + r.used) = slot n r.write := h.slot_write.symm
    simp only [RingBuffer.push, hs, Function.update_self]

theorem contents_eq_cons (hne : r.write ≠ r.read) : r.contents = r.head :: r.drop.contents := by
  have hr := h.read_lt
  unfold contents
  rw [← h.used_drop hne, List.range_succ_eq_map, List.map_cons, List.map_map]
  congr 1
  refine List.map_congr_left fun k _ => ?_
  show r.cells (slot n (r.read + (k + 1))) = r.cells (slot n (next n r.read + k))
  unfold next
  split_ifs with he
  · rw [show r.read + (k + 1) = 2 * n + (0 + k) by omega, slot_add_two_mul]
  · rw [Nat.add_assoc, Nat.add_comm 1 k]

end Valid

/-- A valid ring buffer steps as the bounded queue of its contents does. -/
theorem step_refine (r : RingBuffer α n) (q : List α) (e : QueueEvent α)
    (h : r.Valid ∧ r.contents = q) :
    ∃ r' q' out, step r e = some (r', out) ∧ BoundedQueue.step n q e = some (q', out) ∧
      (r'.Valid ∧ r'.contents = q') := by
  obtain ⟨hv, rfl⟩ := h
  cases e with
  | push a =>
    by_cases hf : r.used = n
    · refine ⟨r, r.contents, [], ?_, ?_, hv, rfl⟩
      · simp only [step, if_pos hf]
      · simp only [BoundedQueue.step, length_contents, if_pos hf]
    · refine ⟨r.push a, r.contents ++ [a], [], ?_, ?_, hv.push hf a, hv.contents_push hf a⟩
      · simp only [step, if_neg hf]
      · simp only [BoundedQueue.step, length_contents, if_neg hf]
  | pull =>
    by_cases hne : r.write = r.read
    · have hc : r.contents = [] :=
        List.length_eq_zero_iff.1 (by rw [length_contents, hv.used_eq_zero_iff.2 hne])
      refine ⟨r, [], [], ?_, ?_, hv, hc⟩
      · simp only [step, if_pos hne]
      · simp only [hc, BoundedQueue.step]
    · refine ⟨r.drop, r.drop.contents, [r.head], ?_, ?_, hv.drop hne, rfl⟩
      · simp only [step, if_neg hne]
      · simp only [hv.contents_eq_cons hne, BoundedQueue.step]

end RingBuffer

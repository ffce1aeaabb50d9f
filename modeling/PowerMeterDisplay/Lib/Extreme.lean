import Mathlib.Data.List.MinMax
import Mathlib.Order.Bounds.Basic

/-!
# Running extremes

A running minimum starts from a value that no item exceeds, a running maximum from one that no item
is below.  After the first item it is the exact extreme of the items taken in.  The items may be
kept in a type of their own and compared there: `key_min` and `key_max` read one update in the order
of their keys.
-/

section Key

variable {β γ : Type*} [LT β] [DecidableLT β] [LinearOrder γ] {key : β → γ}

theorem key_min (hkey : ∀ {a b}, a < b ↔ key a < key b) (m x : β) :
    key (if m > x then x else m) = min (key m) (key x) := by
  split_ifs with h
  · exact (min_eq_right (hkey.1 h).le).symm
  · exact (min_eq_left (not_lt.1 fun hlt => h (hkey.2 hlt))).symm

theorem key_max (hkey : ∀ {a b}, a < b ↔ key a < key b) (m x : β) :
    key (if m < x then x else m) = max (key m) (key x) := by
  split_ifs with h
  · exact (max_eq_right (hkey.1 h).le).symm
  · exact (max_eq_left (not_lt.1 fun hlt => h (hkey.2 hlt))).symm

end Key

namespace List

variable {α : Type*} [LinearOrder α] {xs : List α}

theorem foldl_min_isLeast {top : α} (hne : xs ≠ []) (htop : ∀ x ∈ xs, x ≤ top) :
    IsLeast {x | x ∈ xs} (xs.foldl min top) := by
  have hmin : (top :: xs).min? = some (xs.foldl min top) := min?_cons'
  obtain ⟨hmem, hall⟩ := min?_eq_some_iff.1 hmin
  have hle : ∀ x ∈ xs, xs.foldl min top ≤ x := fun x hx => hall x (mem_cons_of_mem _ hx)
  refine ⟨(mem_cons.1 hmem).elim (fun heq => ?_) id, hle⟩
  -- the minimum is the starting value: so is every item
  obtain ⟨x, hx⟩ := exists_mem_of_ne_nil xs hne
  have hx' : x = xs.foldl min top := le_antisymm ((htop x hx).trans heq.ge) (hle x hx)
  exact hx' ▸ hx

theorem foldl_max_isGreatest {bot : α} (hne : xs ≠ []) (hbot : ∀ x ∈ xs, bot ≤ x) :
    IsGreatest {x | x ∈ xs} (xs.foldl max bot) := by
  have hmax : (bot :: xs).max? = some (xs.foldl max bot) := max?_cons'
  obtain ⟨hmem, hall⟩ := max?_eq_some_iff.1 hmax
  have hle : ∀ x ∈ xs, x ≤ xs.foldl max bot := fun x hx => hall x (mem_cons_of_mem _ hx)
  refine ⟨(mem_cons.1 hmem).elim (fun heq => ?_) id, hle⟩
  obtain ⟨x, hx⟩ := exists_mem_of_ne_nil xs hne
  have hx' : x = xs.foldl max bot := le_antisymm (hle x hx) (heq.le.trans (hbot x hx))
  exact hx' ▸ hx

end List

import Mathlib.Data.List.Basic
import Mathlib.Tactic.Common

/-!
# Chains of records

Records lie one behind the other and each begins with its own length, so that a reader gets from one
to the next.  `walk` is such a reader on bytes; on the bytes of a chain it settles at the first
record that is settled on its own (`walk_chain`).
-/

/-- A record: its first byte is its length. -/
structure Record where
  bytes : List UInt8
  head_eq : bytes.head?.map UInt8.toNat = some bytes.length

namespace Record

variable {α : Type*}

theorem length_pos (r : Record) : 0 < r.bytes.length := by
  obtain ⟨bytes, h⟩ := r
  cases bytes with
  | nil => cases h
  | cons b bs => exact Nat.succ_pos _

/-- The bytes of a chain of records. -/
def chain (rs : List Record) : List UInt8 := rs.flatMap bytes

@[simp] theorem chain_nil : chain [] = [] := rfl

@[simp] theorem chain_append (rs ts : List Record) : chain (rs ++ ts) = chain rs ++ chain ts :=
  List.flatMap_append

@[simp] theorem chain_cons (r : Record) (rs : List Record) :
    chain (r :: rs) = r.bytes ++ chain rs := rfl

/-- What is read inside a record of a chain. -/
theorem getElem?_chain (pre post : List Record) (r : Record) {k : ℕ} (hk : k < r.bytes.length) :
    (chain (pre ++ r :: post))[(chain pre).length + k]? = r.bytes[k]? := by
  rw [chain_append, List.getElem?_append_right (Nat.le_add_right ..), Nat.add_sub_cancel_left,
    chain_cons, List.getElem?_append_left hk]

theorem getElem?_chain_head (pre post : List Record) (r : Record) :
    (chain (pre ++ r :: post))[(chain pre).length]?.map UInt8.toNat = some r.bytes.length := by
  have h := getElem?_chain pre post r r.length_pos
  rw [Nat.add_zero] at h
  rw [h, ← List.head?_eq_getElem?, r.head_eq]

/-- Go from record to record up to `stop`, until `p` settles the walk; `none` is a read outside the
bytes, or a walk with no end. -/
def walk (bytes : List UInt8) (stop : ℕ) (p : ℕ → Option (Option α)) :
    ℕ → ℕ → Option (Option α × ℕ)
  | 0, _ => none
  | fuel + 1, pos =>
    if pos < stop then
      (p pos).bind fun
        | some a => some (some a, pos)
        | none => bytes[pos]?.bind fun len => walk bytes stop p fuel (pos + len.toNat)
    else some (none, pos)

/-- What a walk over a chain from behind `pre` on finds, and where. -/
def settled (q : Record → Option α) (pre : List Record) (rs : List Record) : Option α × ℕ :=
  (rs.findSome? q, (chain (pre ++ rs.takeWhile fun r => (q r).isNone)).length)

/-- The walk over a chain settles at the first record that `q` settles, if what `p` finds at the
place of a record is what `q` makes of that record. -/
theorem walk_chain {bytes : List UInt8} {p : ℕ → Option (Option α)} {q : Record → Option α}
    (rs : List Record) : ∀ (pre : List Record) (fuel : ℕ), bytes = chain (pre ++ rs) →
      (∀ pre' r post, pre' ++ r :: post = pre ++ rs → p (chain pre').length = some (q r)) →
      rs.length < fuel →
      walk bytes bytes.length p fuel (chain pre).length = some (settled q pre rs) := by
  induction rs with
  | nil =>
    rintro pre (_ | fuel) rfl _ hfuel
    · exact absurd hfuel (Nat.not_lt_zero _)
    · simp [walk, settled]
  | cons r rs ih =>
    rintro pre (_ | fuel) hbytes hp hfuel
    · exact absurd hfuel (Nat.not_lt_zero _)
    have hlt : (chain pre).length < bytes.length := by
      have := r.length_pos
      simp only [hbytes, chain_append, chain_cons, List.length_append]
      omega
    have hhead := getElem?_chain_head pre rs r
    rw [← hbytes] at hhead
    obtain ⟨len, hlen, hlen'⟩ := Option.map_eq_some_iff.1 hhead
    rw [walk, if_pos hlt, hp pre r rs rfl]
    cases hq : q r with
    | some a => simp [settled, hq]
    | none =>
      have hnext := ih (pre ++ [r]) fuel (by simpa using hbytes)
        (fun pre' r' post h => hp pre' r' post (by simpa using h)) (by simpa using hfuel)
      simp only [Option.bind_some, hlen, hlen']
      simpa [settled, hq] using hnext

end Record

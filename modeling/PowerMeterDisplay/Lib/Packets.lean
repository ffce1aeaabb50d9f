import Mathlib.Data.List.Basic
import Mathlib.Tactic.Common

/-!
# Transfers cut into packets

A transfer goes over a wire in packets of at most `n` elements.  The receiver has asked for `w`
elements; it stops when it has as many, or at a packet that is not full.  So a sender with fewer
elements must end with such a packet, which is empty if the others are all full (`packets`).  The
receiver gets what was sent and leaves what comes behind (`receive_packets`).
-/

namespace Transfer

variable {α : Type*} {n w : ℕ}

/-- The packets with some elements, of which the receiver has asked for `w`. -/
def packets (n w : ℕ) (xs : List α) : List (List α) :=
  if w = 0 then []
  else if n = 0 ∨ xs.length < n then [xs]
  else xs.take n :: packets n (w - n) (xs.drop n)
termination_by w

/-- What a receiver that has asked for `w` elements takes of the packets, and the packets behind
it; `none` waits for more. -/
def receive (n : ℕ) : ℕ → List (List α) → Option (List α × List (List α))
  | 0, ps => some ([], ps)
  | _ + 1, [] => none
  | w + 1, p :: ps =>
    if p.length < n then some (p, ps)
    else (receive n (w + 1 - n) ps).map fun r => (p ++ r.1, r.2)

@[simp] theorem packets_zero (n : ℕ) (xs : List α) : packets n 0 xs = [] := by
  rw [packets, if_pos rfl]

theorem packets_short {xs : List α} (hw : 0 < w) (h : xs.length < n) : packets n w xs = [xs] := by
  rw [packets, if_neg (Nat.pos_iff_ne_zero.1 hw), if_pos (.inr h)]

theorem packets_full {xs : List α} (hn : 0 < n) (h : n ≤ xs.length) (hw : 0 < w) :
    packets n w xs = xs.take n :: packets n (w - n) (xs.drop n) := by
  rw [packets, if_neg (Nat.pos_iff_ne_zero.1 hw), if_neg (by omega)]

/-- A transfer begins with as much as a packet takes. -/
theorem exists_packets_eq_cons (hn : 0 < n) (hw : 0 < w) (xs : List α) :
    ∃ ps, packets n w xs = xs.take n :: ps := by
  by_cases h : xs.length < n
  · exact ⟨[], by rw [packets_short hw h, List.take_of_length_le (Nat.le_of_lt h)]⟩
  · exact ⟨_, packets_full hn (Nat.not_lt.1 h) hw⟩

theorem receive_zero (n : ℕ) (ps : List (List α)) : receive n 0 ps = some ([], ps) := by
  cases ps <;> rfl

theorem receive_short {p : List α} {ps : List (List α)} (hw : 0 < w) (h : p.length < n) :
    receive n w (p :: ps) = some (p, ps) := by
  obtain ⟨w, rfl⟩ := Nat.exists_eq_add_of_lt hw
  rw [Nat.zero_add, receive, if_pos h]

theorem receive_full {p : List α} {ps : List (List α)} (hw : 0 < w) (h : n ≤ p.length) :
    receive n w (p :: ps) = (receive n (w - n) ps).map fun r => (p ++ r.1, r.2) := by
  obtain ⟨w, rfl⟩ := Nat.exists_eq_add_of_lt hw
  rw [Nat.zero_add, receive, if_neg (by omega)]

/-- The receiver gets what was sent, whatever comes behind it. -/
theorem receive_packets (hn : 0 < n) {xs : List α} (hxs : xs.length ≤ w) (ps : List (List α)) :
    receive n w (packets n w xs ++ ps) = some (xs, ps) := by
  fun_induction packets n w xs with
  | case1 xs =>
    rw [List.length_eq_zero_iff.1 (Nat.le_zero.1 hxs), List.nil_append, receive_zero]
  | case2 w xs hw hshort =>
    have hshort : xs.length < n := hshort.resolve_left (by omega)
    rw [List.singleton_append, receive_short (by omega) hshort]
  | case3 w xs hw hfull ih =>
    have hlen : (xs.take n).length = n := List.length_take_of_le (by omega)
    have hrest := ih (by rw [List.length_drop]; omega)
    rw [List.cons_append, receive_full (by omega) (Nat.le_of_eq hlen.symm), hrest, Option.map_some,
      List.take_append_drop]

/-- Packets that come later change nothing for a receiver that has all it wants. -/
theorem receive_append {ys : List α} {ps qs rs : List (List α)}
    (h : receive n w ps = some (ys, rs)) : receive n w (ps ++ qs) = some (ys, rs ++ qs) := by
  induction ps generalizing w ys with
  | nil =>
    cases w with
    | zero =>
      obtain ⟨rfl, rfl⟩ := Prod.mk.inj (Option.some.inj h)
      exact receive_zero n _
    | succ w => cases h
  | cons p ps ih =>
    cases w with
    | zero =>
      obtain ⟨rfl, rfl⟩ := Prod.mk.inj (Option.some.inj h)
      exact receive_zero n _
    | succ w =>
      rw [List.cons_append, receive]
      rw [receive] at h
      split at h
      next hshort =>
        obtain ⟨rfl, rfl⟩ := Prod.mk.inj (Option.some.inj h)
        rw [if_pos hshort]
      next hfull =>
        obtain ⟨⟨zs, rs'⟩, hrec, he⟩ := Option.map_eq_some_iff.1 h
        obtain ⟨rfl, rfl⟩ := Prod.mk.inj he
        rw [if_neg hfull, ih hrec, Option.map_some]

/-- A receiver that is content with the first packets of a transfer has all of it. -/
theorem receive_of_prefix (hn : 0 < n) {xs ys : List α} {ps rs : List (List α)}
    (hxs : xs.length ≤ w) (hps : ps <+: packets n w xs) (h : receive n w ps = some (ys, rs)) :
    ys = xs ∧ ps = packets n w xs ∧ rs = [] := by
  obtain ⟨qs, hqs⟩ := hps
  have hall := receive_packets hn hxs []
  rw [List.append_nil, ← hqs, receive_append h] at hall
  obtain ⟨rfl, hnil⟩ := Prod.mk.inj (Option.some.inj hall)
  obtain ⟨rfl, rfl⟩ := List.append_eq_nil_iff.1 hnil
  exact ⟨rfl, by rw [← hqs, List.append_nil], rfl⟩

end Transfer

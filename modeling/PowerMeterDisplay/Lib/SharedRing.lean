import PowerMeterDisplay.Lib.RingBuffer

/-!
# A ring buffer that two sides share

One side pushes and the other one pulls, with no lock.  A step ends with one access to what the
other side uses: a push tests for room, writes the cell and then the write index, a pull tests for
an item, reads the cell and then writes the read index.  The steps of the two sides come in any
order.  An operation takes effect in its last step: the operations in the order in which they
complete are those of a bounded queue (`step_linear`).
-/

/-- How far a push has come. -/
inductive Pushing (α : Type*) where
  | idle
  /-- There is room for the item. -/
  | checked (a : α)
  /-- The item stands in its cell. -/
  | written (a : α)
  deriving DecidableEq, Repr

/-- How far a pull has come. -/
inductive Pulling (α : Type*) where
  | idle
  /-- There is an item. -/
  | checked
  /-- The item is read from its cell. -/
  | loaded (a : α)
  deriving DecidableEq, Repr

namespace RingBuffer

variable {α : Type*} {n : ℕ} [NeZero n]

/-- Write the cell at the write index. -/
def setCell (r : RingBuffer α n) (a : α) : RingBuffer α n :=
  { r with cells := Function.update r.cells (slot n r.write) a }

def advance (r : RingBuffer α n) : RingBuffer α n := { r with write := next n r.write }

theorem push_setCell (r : RingBuffer α n) (a : α) : (r.setCell a).push a = r.push a := by
  simp only [push, setCell, Function.update_idem]

/-- To move on behind a cell that is written already is a push. -/
theorem advance_eq_push {r : RingBuffer α n} {a : α} (h : r.cells (slot n r.write) = a) :
    r.advance = r.push a := by
  rw [push, ← h, Function.update_eq_self]
  rfl

namespace Valid

variable {r : RingBuffer α n} (h : r.Valid)

include h

theorem setCell (a : α) : (r.setCell a).Valid := ⟨h.read_lt, h.write_lt, h.used_le⟩

/-- The cell at the write index is none of the queued ones. -/
theorem contents_setCell (hf : r.used ≠ n) (a : α) : (r.setCell a).contents = r.contents := by
  have hpush := (h.setCell a).contents_push hf a
  rw [push_setCell, h.contents_push hf a] at hpush
  exact (List.append_cancel_right hpush).symm

theorem contents_eq_nil (hempty : r.write = r.read) : r.contents = [] :=
  List.length_eq_zero_iff.1 (by rw [length_contents, h.used_eq_zero_iff.2 hempty])

theorem contents_ne_nil (hne : r.write ≠ r.read) : r.contents ≠ [] := by
  rw [h.contents_eq_cons hne]
  exact List.cons_ne_nil _ _

end Valid

end RingBuffer

/-- A ring buffer with what its two sides are at. -/
structure SharedRing (α : Type*) (n : ℕ) where
  ring : RingBuffer α n
  pushing : Pushing α
  pulling : Pulling α

namespace SharedRing

open RingBuffer

variable {α : Type*} {n : ℕ} [NeZero n]

/-- The next step of one side; a push that begins is one of the given item. -/
def step : Machine (SharedRing α n) (QueueEvent α) (QueueResult α)
  | s, .push a => some <|
    match s.pushing with
    | .idle =>
      if s.ring.used = n then (s, [.pushed a false]) else ({ s with pushing := .checked a }, [])
    | .checked b => ({ s with ring := s.ring.setCell b, pushing := .written b }, [])
    | .written b => ({ s with ring := s.ring.advance, pushing := .idle }, [.pushed b true])
  | s, .pull => some <|
    match s.pulling with
    | .idle =>
      if s.ring.write = s.ring.read then (s, [.pulled none])
      else ({ s with pulling := .checked }, [])
    | .checked => ({ s with pulling := .loaded s.ring.head }, [])
    | .loaded a => ({ s with ring := s.ring.drop, pulling := .idle }, [.pulled (some a)])

/-- There still is room for the push. -/
def HasRoom (r : RingBuffer α n) : Pushing α → Prop
  | .idle => True
  | .checked _ => r.used ≠ n
  | .written a => r.used ≠ n ∧ r.cells (slot n r.write) = a

/-- The item of the pull still is the oldest one. -/
def HasItem (q : List α) : Pulling α → Prop
  | .idle => True
  | .checked => q ≠ []
  | .loaded a => q.head? = some a

structure Valid (s : SharedRing α n) : Prop where
  ring : s.ring.Valid
  pushing : HasRoom s.ring s.pushing
  pulling : HasItem s.ring.contents s.pulling

/-- A pull makes room and leaves the cell of the push alone. -/
theorem HasRoom.drop {r : RingBuffer α n} (h : r.Valid) (hne : r.write ≠ r.read) {x : Pushing α}
    (hx : HasRoom r x) : HasRoom r.drop x := by
  have hroom : r.drop.used ≠ n := by
    have hused := h.used_drop hne
    have hle := h.used_le
    omega
  cases x with
  | idle => trivial
  | checked _ => exact hroom
  | written a => exact ⟨hroom, hx.2⟩

/-- A push adds behind the oldest item. -/
theorem HasItem.append {q : List α} {x : Pulling α} (hx : HasItem q x) (a : α) :
    HasItem (q ++ [a]) x := by
  cases x with
  | idle => trivial
  | checked => exact List.append_ne_nil_of_left_ne_nil hx _
  | loaded b =>
    have hx : q.head? = some b := hx
    show (q ++ [a]).head? = some b
    rw [List.head?_append, hx]
    rfl

/-- The operation that a step completes, if any, is one of the bounded queue. -/
theorem step_linear {s : SharedRing α n} (h : s.Valid) (e : QueueEvent α) :
    ∃ s' out, step s e = some (s', out) ∧
      (BoundedQueue.respond n).run s.ring.contents (out.map QueueResult.event) =
        some (s'.ring.contents, out) ∧ s'.Valid := by
  obtain ⟨r, pushing, pulling⟩ := s
  obtain ⟨hr, hpushing, hpulling⟩ := h
  cases e with
  | push a =>
    cases pushing with
    | idle =>
      by_cases hf : r.used = n
      · refine ⟨⟨r, .idle, pulling⟩, [.pushed a false], ?_, ?_, hr, hpushing, hpulling⟩
        · exact congrArg some (if_pos hf)
        · refine (BoundedQueue.respond n).run_singleton ?_
          exact if_pos ((length_contents r).trans hf)
      · refine ⟨⟨r, .checked a, pulling⟩, [], ?_, rfl, hr, hf, hpulling⟩
        exact congrArg some (if_neg hf)
    | checked b =>
      have hcontents := hr.contents_setCell hpushing b
      refine ⟨⟨r.setCell b, .written b, pulling⟩, [], rfl, ?_, hr.setCell b, ⟨hpushing, ?_⟩, ?_⟩
      · rw [hcontents]
        rfl
      · exact Function.update_self ..
      · rw [hcontents]
        exact hpulling
    | written b =>
      obtain ⟨hf, hcell⟩ := hpushing
      have hcontents := hr.contents_push hf b
      refine ⟨⟨r.advance, .idle, pulling⟩, [.pushed b true], rfl, ?_, ?_, trivial, ?_⟩
      · refine (BoundedQueue.respond n).run_singleton ?_
        rw [advance_eq_push hcell, hcontents]
        exact if_neg fun hfull => hf ((length_contents r).symm.trans hfull)
      · rw [advance_eq_push hcell]
        exact hr.push hf b
      · rw [advance_eq_push hcell, hcontents]
        exact hpulling.append b
  | pull =>
    cases pulling with
    | idle =>
      by_cases hempty : r.write = r.read
      · refine ⟨⟨r, pushing, .idle⟩, [.pulled none], ?_, ?_, hr, hpushing, hpulling⟩
        · exact congrArg some (if_pos hempty)
        · refine (BoundedQueue.respond n).run_singleton ?_
          rw [hr.contents_eq_nil hempty]
          rfl
      · refine ⟨⟨r, pushing, .checked⟩, [], ?_, rfl, hr, hpushing, hr.contents_ne_nil hempty⟩
        exact congrArg some (if_neg hempty)
    | checked =>
      have hne : r.write ≠ r.read := fun hempty => hpulling (hr.contents_eq_nil hempty)
      refine ⟨⟨r, pushing, .loaded r.head⟩, [], rfl, rfl, hr, hpushing, ?_⟩
      rw [hr.contents_eq_cons hne]
      rfl
    | loaded a =>
      have hitem : r.contents.head? = some a := hpulling
      have hne : r.write ≠ r.read := fun hempty => by
        rw [hr.contents_eq_nil hempty] at hitem
        exact nomatch hitem
      rw [hr.contents_eq_cons hne] at hitem
      obtain rfl : r.head = a := Option.some.inj hitem
      refine ⟨⟨r.drop, pushing, .idle⟩, [.pulled (some r.head)], rfl, ?_, hr.drop hne,
        HasRoom.drop hr hne hpushing, trivial⟩
      refine (BoundedQueue.respond n).run_singleton ?_
      rw [hr.contents_eq_cons hne]
      rfl

end SharedRing

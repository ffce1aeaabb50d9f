import PowerMeterDisplay.Lib.Machine

/-!
# A bounded queue that drops what does not fit

The abstract queue is a list of at most `cap` items.  An item pushed while the queue is full is
dropped; a pull takes the oldest item, and takes nothing from the empty queue.  `accepted` computes
which of the pushed items are kept from the occupancy alone.  The law of the queue
(`accepted_eq_pulled_append`) says that the items pulled so far, followed by the items still queued,
are the accepted items in order.
-/

/-- What happens to a queue from outside. -/
inductive QueueEvent (α : Type*) where
  | push (a : α)
  | pull
  deriving DecidableEq, Repr

namespace BoundedQueue

variable {α : Type*} (cap : ℕ)

/-- The queue as a machine whose outputs are the pulled items. -/
def step : Machine (List α) (QueueEvent α) α
  | q, .push a => some (if q.length = cap then q else q ++ [a], [])
  | [], .pull => some ([], [])
  | a :: q, .pull => some (q, [a])

/-- The pushed items without those that arrive while `cap` items are queued, for a queue that
starts with `n` items. -/
def accepted : ℕ → List (QueueEvent α) → List α
  | _, [] => []
  | n, .push a :: es => if n = cap then accepted n es else a :: accepted (n + 1) es
  | n, .pull :: es => accepted (n - 1) es

/-- What has been pulled, followed by what is still queued, is what was queued at first followed by
the accepted items. -/
theorem accepted_eq_pulled_append (es : List (QueueEvent α)) :
    ∀ {q q' out : List α}, (step cap).run q es = some (q', out) →
      q ++ accepted cap q.length es = out ++ q' := by
  induction es with
  | nil =>
    intro q q' out h
    obtain ⟨rfl, rfl⟩ := Prod.mk.inj (Option.some.inj h)
    simp [accepted]
  | cons e es ih =>
    intro q q' out h
    obtain ⟨q₁, o₁, o₂, h₁, h₂, rfl⟩ := (step cap).run_cons_eq_some_iff.1 h
    cases e with
    | push a =>
      obtain ⟨rfl, rfl⟩ := Prod.mk.inj (Option.some.inj h₁)
      have key := ih h₂
      by_cases hf : q.length = cap
      · simpa only [accepted, if_pos hf, List.nil_append] using key
      · rw [if_neg hf] at key
        simpa only [accepted, if_neg hf, List.nil_append, List.length_append, List.length_singleton,
          List.append_assoc, List.singleton_append] using key
    | pull =>
      cases q with
      | nil =>
        obtain ⟨rfl, rfl⟩ := Prod.mk.inj (Option.some.inj h₁)
        exact ih h₂
      | cons a q =>
        obtain ⟨rfl, rfl⟩ := Prod.mk.inj (Option.some.inj h₁)
        have key := ih h₂
        simp only [accepted, List.length_cons, Nat.add_sub_cancel, List.cons_append,
          List.nil_append]
        rw [key]

end BoundedQueue

/-! ## Results -/

/-- An operation with its result: whether the item fitted, or the item that was taken. -/
inductive QueueResult (α : Type*) where
  | pushed (a : α) (fits : Bool)
  | pulled (item : Option α)
  deriving DecidableEq, Repr

namespace QueueResult

variable {α : Type*}

def event : QueueResult α → QueueEvent α
  | .pushed a _ => .push a
  | .pulled _ => .pull

/-- The item that came into the queue. -/
def accepted : QueueResult α → Option α
  | .pushed a true => some a
  | _ => none

/-- The item that left the queue. -/
def item : QueueResult α → Option α
  | .pulled item => item
  | _ => none

end QueueResult

namespace BoundedQueue

variable {α : Type*} (cap : ℕ)

/-- The queue as a machine whose outputs are the results of the operations. -/
def respond : Machine (List α) (QueueEvent α) (QueueResult α)
  | q, .push a =>
    if q.length = cap then some (q, [.pushed a false]) else some (q ++ [a], [.pushed a true])
  | [], .pull => some ([], [.pulled none])
  | a :: q, .pull => some (q, [.pulled (some a)])

/-- What came in leaves in that order, without loss and once. -/
theorem items_append_of_run {q q' : List α} {es : List (QueueEvent α)} {out : List (QueueResult α)}
    (h : (respond cap).run q es = some (q', out)) :
    q ++ out.filterMap QueueResult.accepted = out.filterMap QueueResult.item ++ q' := by
  refine (respond cap).run_history
    (P := fun _ q' out =>
      q ++ out.filterMap QueueResult.accepted = out.filterMap QueueResult.item ++ q')
    (by simp) ?_ h
  intro es q₁ out e q₂ o ih hstep
  rw [List.filterMap_append, List.filterMap_append, ← List.append_assoc, ih, List.append_assoc,
    List.append_assoc]
  congr 1
  cases e with
  | push a =>
    simp only [respond] at hstep
    split_ifs at hstep <;> obtain ⟨rfl, rfl⟩ := Prod.mk.inj (Option.some.inj hstep)
    · exact List.append_nil q₁
    · rfl
  | pull =>
    cases q₁ with
    | nil =>
      obtain ⟨rfl, rfl⟩ := Prod.mk.inj (Option.some.inj hstep)
      rfl
    | cons a q₁ =>
      obtain ⟨rfl, rfl⟩ := Prod.mk.inj (Option.some.inj hstep)
      exact List.append_nil (a :: q₁)

end BoundedQueue

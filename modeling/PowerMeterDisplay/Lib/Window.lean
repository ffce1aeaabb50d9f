import PowerMeterDisplay.Lib.Machine

/-!
# Windows of a log

A log of entries of which some clear an accumulator and some add items to it: `window` lists the
items added since the accumulator was last cleared.  It is the ghost value that an accumulator is
compared with, and `window_of_run` is the rule for comparing them along a run.
-/

namespace Log

variable {α β : Type*} (clears : α → Bool) (adds : α → List β)

/-- The items that the entries of the log added since the last entry that clears. -/
def window (log : List α) : List β :=
  log.foldl (fun w e => if clears e then [] else w ++ adds e) []

/-- A window after more entries. -/
def extend (w : List β) (log : List α) : List β :=
  log.foldl (fun w e => if clears e then [] else w ++ adds e) w

theorem window_append (log out : List α) :
    window clears adds (log ++ out) = extend clears adds (window clears adds log) out :=
  List.foldl_append

/-- One more entry either clears the window or extends it. -/
theorem window_concat (log : List α) (e : α) :
    window clears adds (log ++ [e]) =
      if clears e then [] else window clears adds log ++ adds e :=
  window_append clears adds log [e]

/-- A window of mapped items is the mapped window. -/
theorem window_map {γ : Type*} (f : β → γ) (log : List α) :
    window clears (fun e => (adds e).map f) log = (window clears adds log).map f := by
  induction log using List.reverseRecOn with
  | nil => rfl
  | append_singleton log e ih =>
    rw [window_concat, window_concat, ih]
    split_ifs
    · rfl
    · rw [List.map_append]

/-- The window rule: what holds of the first state with the empty window, and is kept by every step
with what the step does to the window, holds after every run of the state with its window. -/
theorem window_of_run {σ ε : Type*} (m : Machine σ ε α) {P : σ → List β → Prop} {s : σ}
    {es : List ε} (start : P s [])
    (step : ∀ t w e t' out, e ∈ es → P t w → m t e = some (t', out) →
      P t' (extend clears adds w out))
    {t : σ} {log : List α} (h : m.run s es = some (t, log)) : P t (window clears adds log) := by
  refine m.run_history (P := fun past t log => past ⊆ es → P t (window clears adds log))
    (fun _ => start) ?_ h (List.Subset.refl es)
  intro past t log e t' out ih he hsub
  rw [window_append]
  have hpast : past ⊆ es := fun x hx => hsub (List.mem_append_left _ hx)
  exact step t _ e t' out (hsub (List.mem_append_right _ (List.mem_singleton_self e))) (ih hpast) he

end Log

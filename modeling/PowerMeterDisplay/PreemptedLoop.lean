import PowerMeterDisplay.FifoRace
import PowerMeterDisplay.MainLoopRefine

/-!
# Interrupts inside a pull

`MainState.step` takes a pull of the receiver as one step, but only the first pull of a call runs
with the interrupts masked.  `Preempted.step` is the main loop with every pull cut at its accesses
to the queue.  It makes no difference: a run is a run of `MainState.step` with the same interrupts
in the same order, to the same state and with the same calls (`preempted_run`).
-/

namespace PowerMeterDisplay

/-- An event that is not a step of the main loop. -/
def Event.isInterrupt : Event → Bool
  | .loop _ => false
  | _ => true

/-- The main loop with what its pull is at. -/
structure Preempted where
  main : MainState
  pulling : FifoPulling
  deriving DecidableEq, Repr

namespace Preempted

def start : Preempted := ⟨.start, .idle⟩

/-- The next step of the pull in the loop of `proto_receiver`, with the body of the loop when it
pulled a byte. -/
def receive (p : Port) (s : Preempted) : Option (Preempted × List Call) := do
  let (x, out) ← SharedFifo.pull ⟨s.main.fifo.get p, .idle, s.pulling⟩
  let main := { s.main with fifo := s.main.fifo.set p x.fifo }
  match out with
  | [.pulled none] => some (⟨{ main with pc := .afterReceive p }, x.pulling⟩, [])
  | [.pulled (some byte)] => do
    let (ports, out) ← receiveByte main.ports (p, byte)
    some (⟨{ main with ports := ports }, x.pulling⟩,
      out.flatMap (MainState.frameCalls p (main.lcdData p)))
  | _ => some (⟨main, x.pulling⟩, [])

def loop (high : Bool) (s : Preempted) : Option (Preempted × List Call) :=
  match s.main.pc with
  | .receive p => s.receive p
  | _ => (s.main.loop high).map fun r => (⟨r.1, s.pulling⟩, r.2)

/-- The main loop and the interrupts, in any order. -/
def step : Machine Preempted Event Call
  | s, .loop high => s.loop high
  | s, e => (MainState.step s.main e).map fun r => (⟨r.1, s.pulling⟩, r.2)

/-- A pull is at its start, or its receiver is running. -/
structure Valid (s : Preempted) : Prop where
  main : s.main.Valid
  pulling : s.pulling ≠ .idle →
    ∃ p, s.main.pc = .receive p ∧ SharedFifo.Valid ⟨s.main.fifo.get p, .idle, s.pulling⟩

theorem start_valid : start.Valid where
  main := MainState.start_valid
  pulling h := absurd rfl h

variable {s : Preempted}

theorem Valid.shared (h : s.Valid) {p : Port} (hpc : s.main.pc = .receive p) :
    SharedFifo.Valid ⟨s.main.fifo.get p, .idle, s.pulling⟩ := by
  by_cases hidle : s.pulling = .idle
  · have hf := h.main.fifo p
    rw [hidle]
    exact ⟨⟨hf.size_eq, hf.mask_eq, nofun, nofun⟩, hf.ring_valid, trivial, trivial⟩
  · obtain ⟨q, hq, hvalid⟩ := h.pulling hidle
    obtain rfl := Pc.receive.inj (hq.symm.trans hpc)
    exact hvalid

theorem valid_of_idle {m : MainState} (h : m.Valid) : Valid ⟨m, .idle⟩ :=
  ⟨h, fun hne => absurd rfl hne⟩

/-- Interrupts leave the pull as it is. -/
theorem interrupt_atomic (h : s.Valid) {e : Event} (he : e.isInterrupt) :
    ∃ s' calls, step s e = some (s', calls) ∧ s'.Valid ∧
      MainState.step s.main e = some (s'.main, calls) := by
  obtain ⟨m, calls, hstep, hmoves⟩ := MainState.step_moves h.main e
  refine ⟨⟨m, s.pulling⟩, calls, ?_, ⟨hmoves.valid, fun hne => ?_⟩, hstep⟩
  · cases e with
    | loop high => exact nomatch he
    | timer _ | rxc _ _ | suspend | resume => simp [step, hstep]
  obtain ⟨p, hpc, hpull⟩ := h.pulling hne
  cases e with
  | loop high => exact nomatch he
  | rxc q byte =>
    obtain ⟨⟨f, st⟩, hpush, hm⟩ := Option.bind_eq_some_iff.1 hstep
    obtain ⟨rfl, rfl⟩ := Prod.mk.inj (Option.some.inj hm)
    refine ⟨p, hpc, ?_⟩
    by_cases hp : p = q
    · subst hp
      simp only [PerPort.get_set_self]
      exact hpull.push hpush
    · simp only [PerPort.get_set_of_ne _ hp]
      exact hpull
  | timer _ | suspend | resume =>
    obtain ⟨rfl, rfl⟩ := Prod.mk.inj (Option.some.inj hstep)
    exact ⟨p, hpc, hpull⟩

/-- A step inside a pull. -/
theorem receive_silent {m : MainState} {p : Port} {pulling pulling' : FifoPulling}
    (h : Valid ⟨m, pulling⟩) (hpc : m.pc = .receive p)
    (hpull : SharedFifo.pull ⟨m.fifo.get p, .idle, pulling⟩ =
      some (⟨m.fifo.get p, .idle, pulling'⟩, [])) :
    ∃ s' calls, receive p ⟨m, pulling⟩ = some (s', calls) ∧ s'.Valid ∧
      (m.receive p = some (s'.main, calls) ∨ calls = [] ∧ s'.main = m) := by
  have hvalid : SharedFifo.Valid ⟨m.fifo.get p, .idle, pulling'⟩ :=
    SharedFifo.valid_of_run (h.shared hpc)
      (SharedFifo.step.run_singleton (show SharedFifo.step _ .pull = _ from hpull))
  refine ⟨⟨m, pulling'⟩, [], ?_, ⟨h.main, fun _ => ⟨p, hpc, hvalid⟩⟩, Or.inr ⟨rfl, rfl⟩⟩
  simp [receive, hpull, PerPort.set_get_self]

/-- Only the last step of a pull is a step of the atomic main loop. -/
theorem receive_atomic (h : s.Valid) {p : Port} (hpc : s.main.pc = .receive p) :
    ∃ s' calls, s.receive p = some (s', calls) ∧ s'.Valid ∧
      (s.main.receive p = some (s'.main, calls) ∨ calls = [] ∧ s'.main = s.main) := by
  have hshared := h.shared hpc
  obtain ⟨m, pulling⟩ := s
  have hf := h.main.fifo p
  cases pulling with
  | idle =>
    by_cases hempty : fifoIsEmpty (m.fifo.get p)
    · have hpull : SharedFifo.pull ⟨m.fifo.get p, .idle, .idle⟩ =
          some (⟨m.fifo.get p, .idle, .idle⟩, [.pulled none]) := if_pos hempty
      have hatomic := MainState.receive_empty (s := m) (p := p) (if_pos hempty)
      obtain ⟨r, hr, hmoves⟩ := MainState.receive_moves h.main p
      obtain rfl := Option.some.inj (hatomic.symm.trans hr)
      refine ⟨⟨_, .idle⟩, [], ?_, valid_of_idle hmoves.valid, Or.inl hatomic⟩
      simp [receive, hpull]
    · exact receive_silent h hpc (if_neg hempty)
  | checked => exact receive_silent h hpc (dif_pos (hf.cell_lt _))
  | loaded item k =>
    have hpull : SharedFifo.pull ⟨m.fifo.get p, .idle, .loaded item k⟩ =
        some (⟨{ m.fifo.get p with readIndex := k }, .idle, .idle⟩, [.pulled (some item)]) := rfl
    obtain ⟨φ, hφ⟩ := h.main.holds
    obtain ⟨ports, hbyte, -⟩ := receiveByte_eq hφ p item
    have hatomic := MainState.receive_byte hshared.pull_loaded hbyte
    obtain ⟨r, hr, hmoves⟩ := MainState.receive_moves h.main p
    obtain rfl := Option.some.inj (hatomic.symm.trans hr)
    refine ⟨⟨_, .idle⟩, _, ?_, valid_of_idle hmoves.valid, Or.inl hatomic⟩
    simp only [receive, hpull, hbyte, Option.bind_eq_bind, Option.bind_some]
    rfl

/-- A step is a step of the atomic main loop, or it is one inside a pull. -/
theorem step_atomic (h : s.Valid) (e : Event) :
    ∃ s' calls, step s e = some (s', calls) ∧ s'.Valid ∧
      (MainState.step s.main e = some (s'.main, calls) ∨
        e.isInterrupt = false ∧ calls = [] ∧ s'.main = s.main) := by
  by_cases he : e.isInterrupt
  · obtain ⟨s', calls, hstep, hs', hatomic⟩ := interrupt_atomic h he
    exact ⟨s', calls, hstep, hs', Or.inl hatomic⟩
  obtain ⟨high, rfl⟩ : ∃ high, e = .loop high := by
    cases e with
    | loop high => exact ⟨high, rfl⟩
    | timer _ | rxc _ _ | suspend | resume => exact absurd rfl he
  by_cases hpc : ∃ p, s.main.pc = .receive p
  · obtain ⟨p, hpc⟩ := hpc
    obtain ⟨s', calls, hstep, hs', hatomic⟩ := receive_atomic h hpc
    refine ⟨s', calls, ?_, hs', hatomic.imp (fun hatomic => ?_) fun hsilent => ⟨rfl, hsilent⟩⟩
    · show s.loop high = _
      rw [loop, hpc]
      exact hstep
    · show s.main.loop high = _
      rw [MainState.loop, hpc]
      exact hatomic
  · have hidle : s.pulling = .idle := by
      by_contra hne
      obtain ⟨p, hp, -⟩ := h.pulling hne
      exact hpc ⟨p, hp⟩
    obtain ⟨m, calls, hatomic, hmoves⟩ := MainState.step_moves h.main (.loop high)
    refine ⟨⟨m, .idle⟩, calls, ?_, valid_of_idle hmoves.valid, Or.inl hatomic⟩
    have hatomic : s.main.loop high = some (m, calls) := hatomic
    show s.loop high = _
    unfold loop
    split
    · exact absurd ⟨_, ‹_›⟩ hpc
    · rw [hatomic, hidle]
      rfl

end Preempted

/-- The receive interrupt and the other ones may come between the accesses of a pull to the queue:
for every order of interrupts and steps the main loop runs through, and its calls and its variables
are those of a run in which each pull is one step, with the same interrupts in the same order. -/
theorem preempted_run (es : List Event) :
    ∃ s calls fs, Preempted.step.run .start es = some (s, calls) ∧
      MainState.step.run .start fs = some (s.main, calls) ∧ fs.Sublist es ∧
      fs.filter Event.isInterrupt = es.filter Event.isInterrupt := by
  obtain ⟨s, t, calls, fs, hrun, hatomic, ⟨-, rfl⟩, hsub, hfilter⟩ :=
    Preempted.step.run_stutter MainState.step (R := fun s t => s.Valid ∧ s.main = t)
      (S := fun e => e.isInterrupt = false) (fun s t e h => by
        obtain ⟨hs, rfl⟩ := h
        obtain ⟨s', calls, hstep, hs', hatomic | ⟨he, hcalls, hmain⟩⟩ := Preempted.step_atomic hs e
        · exact ⟨s', calls, hstep, Or.inl ⟨s'.main, hatomic, hs', rfl⟩⟩
        · exact ⟨s', calls, hstep, Or.inr ⟨he, hcalls, hs', hmain⟩⟩)
      es .start .start ⟨Preempted.start_valid, rfl⟩
  exact ⟨s, calls, fs, hrun, hatomic, hsub, hfilter _ fun _ he => he⟩

end PowerMeterDisplay

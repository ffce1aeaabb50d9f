import PowerMeterDisplay.Fifo
import PowerMeterDisplay.ReceiverRefine

/-!
# From the receive interrupt to the receiver

One port's queue together with the receiver.  The receive interrupt pushes a byte; the loop of
`proto_receiver` pulls one and runs its body, and a pull from the empty queue ends a call.  Pushes
and pulls come in any order.  The pair refines the bounded queue followed by the receiver
(`pipeline_refines`), so how the bytes were cut into calls makes no difference.
-/

namespace PowerMeterDisplay

/-- A receive queue and the receiver that drains it. -/
structure Pipeline where
  fifo : FifoDesc
  ports : Ports
  deriving DecidableEq, Repr

namespace Pipeline

def start : Pipeline := ⟨.start, .start⟩

/-- One test of the loop condition of `proto_receiver` for port `p`, with the loop body when a byte
was pulled.  The output is the pulled byte with what it dispatches. -/
def pull (p : Port) (x : Pipeline) : Option (Pipeline × List (UInt8 × List Dispatch)) := do
  let (fifo, item) ← fifoPullUint8 x.fifo
  match item with
  | none => some ({ x with fifo := fifo }, [])
  | some byte => do
    let (ports, out) ← receiveByte x.ports (p, byte)
    some (⟨fifo, ports⟩, [(byte, out)])

/-- The receive interrupt of the port. -/
def push (x : Pipeline) (b : UInt8) : Option Pipeline := do
  let (fifo, _) ← fifoPushUint8 x.fifo b
  some { x with fifo := fifo }

/-- Interrupts and loop tests in any order. -/
def step (p : Port) : Machine Pipeline (QueueEvent UInt8) (UInt8 × List Dispatch)
  | x, .push b => (x.push b).map fun x => (x, [])
  | x, .pull => x.pull p

/-- The queue has the shape that `fifo_init` gives it and the receiver stands for a phase. -/
structure Valid (x : Pipeline) : Prop where
  fifo_valid : x.fifo.Valid
  holds : ∃ φ : Phase, φ.Holds x.ports.receiver

theorem start_valid : start.Valid := ⟨FifoDesc.start_valid, .idle, rfl⟩

/-- One event: the queue does what the bounded queue does, and the receiver takes in the byte that
left the queue. -/
theorem step_eq {p : Port} {x : Pipeline} (h : x.Valid) (e : QueueEvent UInt8) :
    ∃ x' out, step p x e = some (x', out) ∧ x'.Valid ∧
      BoundedQueue.step 64 x.fifo.contents e = some (x'.fifo.contents, out.map Prod.fst) ∧
      protoReceiver p (out.map Prod.fst) x.ports = some (x'.ports, out.flatMap Prod.snd) := by
  obtain ⟨f', q', o, hstep, hqueue, hf', rfl⟩ := fifoStep_refine x.fifo _ e ⟨h.fifo_valid, rfl⟩
  cases e with
  | push b =>
    obtain ⟨⟨f'', st⟩, hpush, he⟩ := Option.map_eq_some_iff.1 hstep
    obtain ⟨rfl, rfl⟩ := Prod.mk.inj he
    refine ⟨⟨f'', x.ports⟩, [], ?_, ⟨hf', h.holds⟩, hqueue, rfl⟩
    simp [step, push, hpush]
  | pull =>
    obtain ⟨⟨f'', item⟩, hpull, he⟩ := Option.map_eq_some_iff.1 hstep
    obtain ⟨rfl, rfl⟩ := Prod.mk.inj he
    cases item with
    | none =>
      refine ⟨⟨f'', x.ports⟩, [], ?_, ⟨hf', h.holds⟩, hqueue, rfl⟩
      simp [step, pull, hpull]
    | some byte =>
      obtain ⟨φ, hφ⟩ := h.holds
      obtain ⟨s', hbyte, hholds, -, -⟩ := receiveByte_eq hφ p byte
      refine ⟨⟨f'', s'⟩, [(byte, (x.ports.receiver.dispatched byte).toList)], ?_,
        ⟨hf', _, hholds⟩, hqueue, ?_⟩
      · simp [step, pull, hpull, hbyte]
      · simpa [protoReceiver] using receiveByte.run_singleton hbyte

/-- Every order of interrupts and loop tests. -/
theorem run_eq {p : Port} (es : List (QueueEvent UInt8)) :
    ∀ {x : Pipeline}, x.Valid → ∃ x' out, (step p).run x es = some (x', out) ∧ x'.Valid ∧
      (BoundedQueue.step 64).run x.fifo.contents es =
        some (x'.fifo.contents, out.map Prod.fst) ∧
      protoReceiver p (out.map Prod.fst) x.ports = some (x'.ports, out.flatMap Prod.snd) := by
  induction es with
  | nil => exact fun {x} h => ⟨x, [], rfl, h, rfl, rfl⟩
  | cons e es ih =>
    intro x h
    obtain ⟨x₁, o₁, hstep, h₁, hqueue₁, hrecv₁⟩ := step_eq h e
    obtain ⟨x₂, o₂, hrun, h₂, hqueue₂, hrecv₂⟩ := ih h₁
    refine ⟨x₂, o₁ ++ o₂, (step p).run_cons hstep hrun, h₂, ?_, ?_⟩
    · rw [List.map_append]
      exact (BoundedQueue.step 64).run_cons hqueue₁ hqueue₂
    · rw [protoReceiver, List.map_append, List.map_append, List.flatMap_append]
      exact receiveByte.run_append hrecv₁ hrecv₂

end Pipeline

/-- For every received stream and every order of interrupts and loop tests since start-up, with the
other port silent: the consumed bytes followed by the queued ones are the received bytes without
those that arrived while 64 bytes were queued; and the receiver, its dispatches and the display
record are what the consumed bytes give, however they are cut into calls. -/
theorem pipeline_refines (p : Port) (es : List (QueueEvent UInt8)) :
    ∃ x out, (Pipeline.step p).run Pipeline.start es = some (x, out) ∧
      out.map Prod.fst ++ x.fifo.contents = BoundedQueue.accepted 64 0 es ∧
      ∀ calls : List (List UInt8), calls.flatten = out.map Prod.fst →
        Machine.run (fun s batch => protoReceiver p batch s) Ports.start calls =
          some (x.ports, out.flatMap Prod.snd) := by
  obtain ⟨x, out, hrun, -, hqueue, hrecv⟩ := Pipeline.run_eq (p := p) es Pipeline.start_valid
  refine ⟨x, out, hrun, ?_, ?_⟩
  · exact (BoundedQueue.accepted_eq_pulled_append 64 es hqueue).symm
  · intro calls hcalls
    rw [run_protoReceiver, hcalls]
    exact hrecv

end PowerMeterDisplay

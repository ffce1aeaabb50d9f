import PowerMeterDisplay.Lib.SharedRing
import PowerMeterDisplay.Fifo

/-!
# The receive queues without a lock

`fifo.h` claims to need no interrupt protection, and the receiver pulls with the receive interrupt
enabled.  Here `fifo_push_uint8` and `fifo_pull_uint8` are cut at their accesses to what the other
side uses, and the two sides interleave in any way.  An operation counts as complete at its access
to an index that both sides see: with the read of the other side's index by a test that fails, else
with the store of its own.  A descriptor in shape is a shared ring buffer (`SharedFifo.step_shared`):
no access leaves the buffer, and the operations are those of a bounded queue in the order in which
they complete (`fifo_linearizable`).
-/

namespace PowerMeterDisplay

/-- How far `fifo_push_uint8` has come, with the new write index. -/
inductive FifoPushing where
  | idle
  | checked (item : UInt8)
  | written (item writeIndex : UInt8)
  deriving DecidableEq, Repr

/-- How far `fifo_pull_uint8` has come, with the new read index. -/
inductive FifoPulling where
  | idle
  | checked
  | loaded (item readIndex : UInt8)
  deriving DecidableEq, Repr

/-- A descriptor with what its two sides are at. -/
structure SharedFifo where
  fifo : FifoDesc
  pushing : FifoPushing
  pulling : FifoPulling
  deriving DecidableEq, Repr

namespace SharedFifo

def start : SharedFifo := ⟨.start, .idle, .idle⟩

/-- The next step of `fifo_push_uint8`.  The test reads both indices; the write index is nobody
else's to change, so that the step is where the read index is read. -/
def push (s : SharedFifo) (item : UInt8) : Option (SharedFifo × List (QueueResult UInt8)) :=
  match s.pushing with
  | .idle =>
    if fifoIsFull s.fifo then some (s, [.pushed item false])
    else some ({ s with pushing := .checked item }, [])
  | .checked item =>
    let writeIndex := s.fifo.writeIndex
    let k := (writeIndex &&& s.fifo.mask >>> 1).toNat
    if h : k < 64 then
      some ({ s with
        fifo := { s.fifo with buffer := s.fifo.buffer.set k item h }
        pushing := .written item ((writeIndex + 1) &&& s.fifo.mask) }, [])
    else none
  | .written item writeIndex =>
    some ({ s with fifo := { s.fifo with writeIndex := writeIndex }, pushing := .idle },
      [.pushed item true])

/-- The next step of `fifo_pull_uint8`, with the step of the test where the write index is read. -/
def pull (s : SharedFifo) : Option (SharedFifo × List (QueueResult UInt8)) :=
  match s.pulling with
  | .idle =>
    if fifoIsEmpty s.fifo then some (s, [.pulled none])
    else some ({ s with pulling := .checked }, [])
  | .checked =>
    let readIndex := s.fifo.readIndex
    let k := (readIndex &&& s.fifo.mask >>> 1).toNat
    if h : k < 64 then
      some ({ s with
        pulling := .loaded s.fifo.buffer[k] ((readIndex + 1) &&& s.fifo.mask) }, [])
    else none
  | .loaded item readIndex =>
    some ({ s with fifo := { s.fifo with readIndex := readIndex }, pulling := .idle },
      [.pulled (some item)])

/-- The steps of both sides in any order; a push that begins is one of the given item. -/
def step : Machine SharedFifo (QueueEvent UInt8) (QueueResult UInt8)
  | s, .push item => s.push item
  | s, .pull => s.pull

end SharedFifo

/-! ## A descriptor as a shared ring -/

namespace FifoDesc.Valid

variable {f : FifoDesc} (h : f.Valid)

include h

/-- The cell of an index lies in the buffer. -/
theorem cell_eq (x : UInt8) : (x &&& f.mask >>> 1).toNat = x.toNat % 64 := by
  rw [h.mask_eq, toNat_and_half_mask]

theorem cell_lt (x : UInt8) : (x &&& f.mask >>> 1).toNat < 64 := by
  rw [h.cell_eq]
  exact Nat.mod_lt _ (by decide)

theorem ring_setCell (item : UInt8) :
    ({ f with buffer := f.buffer.set _ item (h.cell_lt f.writeIndex) } : FifoDesc).ring =
      f.ring.setCell item := by
  refine RingBuffer.ext (funext fun k => ?_) rfl rfl
  show (f.buffer.set _ item (h.cell_lt f.writeIndex))[k.val] =
    Function.update f.ring.cells (RingBuffer.slot 64 f.writeIndex.toNat) item k
  rw [Vector.getElem_set, Function.update_apply]
  simp only [RingBuffer.slot, Fin.ext_iff, h.cell_eq, eq_comm]
  rfl

theorem ring_writeIndex :
    ({ f with writeIndex := (f.writeIndex + 1) &&& f.mask } : FifoDesc).ring = f.ring.advance := by
  refine RingBuffer.ext rfl rfl ?_
  show ((f.writeIndex + 1) &&& f.mask).toNat = RingBuffer.next 64 f.writeIndex.toNat
  rw [h.mask_eq, toNat_next_index h.ring_valid.write_lt]

theorem ring_readIndex :
    ({ f with readIndex := (f.readIndex + 1) &&& f.mask } : FifoDesc).ring = f.ring.drop := by
  refine RingBuffer.ext rfl ?_ rfl
  show ((f.readIndex + 1) &&& f.mask).toNat = RingBuffer.next 64 f.readIndex.toNat
  rw [h.mask_eq, toNat_next_index h.ring_valid.read_lt]

theorem item_eq : f.buffer.get ⟨(f.readIndex &&& f.mask >>> 1).toNat, h.cell_lt f.readIndex⟩ =
    f.ring.head :=
  congrArg f.ring.cells (Fin.ext (h.cell_eq f.readIndex) :
    (⟨_, h.cell_lt f.readIndex⟩ : Fin 64) = RingBuffer.slot 64 f.ring.read)

end FifoDesc.Valid

def FifoPushing.pushing : FifoPushing → Pushing UInt8
  | .idle => .idle
  | .checked item => .checked item
  | .written item _ => .written item

def FifoPulling.pulling : FifoPulling → Pulling UInt8
  | .idle => .idle
  | .checked => .checked
  | .loaded item _ => .loaded item

namespace SharedFifo

def shared (s : SharedFifo) : SharedRing UInt8 64 :=
  ⟨s.fifo.ring, s.pushing.pushing, s.pulling.pulling⟩

/-- The shape that `fifo_init` gives a descriptor of 64 bytes, and the new indices. -/
structure Shape (s : SharedFifo) : Prop where
  size_eq : s.fifo.size = 64
  mask_eq : s.fifo.mask = 127
  writeIndex : ∀ item k, s.pushing = .written item k →
    k = (s.fifo.writeIndex + 1) &&& s.fifo.mask
  readIndex : ∀ item k, s.pulling = .loaded item k → k = (s.fifo.readIndex + 1) &&& s.fifo.mask

variable {s : SharedFifo}

theorem push_shared (hshape : s.Shape) (hf : s.fifo.Valid) (item : UInt8) :
    ∃ s' out, s.push item = some (s', out) ∧ s'.Shape ∧
      SharedRing.step s.shared (.push item) = some (s'.shared, out) := by
  obtain ⟨f, pushing, pulling⟩ := s
  obtain ⟨hsize, hmask, hwrite, hread⟩ := hshape
  cases pushing with
  | idle =>
    by_cases hfull : f.ring.used = 64
    · refine ⟨⟨f, .idle, pulling⟩, [.pushed item false], ?_, ⟨hsize, hmask, hwrite, hread⟩, ?_⟩
      · exact if_pos (hf.isFull_iff.2 hfull)
      · exact congrArg some (if_pos hfull)
    · refine ⟨⟨f, .checked item, pulling⟩, [], ?_, ⟨hsize, hmask, nofun, hread⟩, ?_⟩
      · exact if_neg (mt hf.isFull_iff.1 hfull)
      · exact congrArg some (if_neg hfull)
  | checked item =>
    refine ⟨⟨{ f with buffer := f.buffer.set _ item (hf.cell_lt f.writeIndex) },
      .written item ((f.writeIndex + 1) &&& f.mask), pulling⟩, [], dif_pos _,
      ⟨hsize, hmask, fun _ _ he => (FifoPushing.written.inj he).2.symm, hread⟩, ?_⟩
    simp only [shared, hf.ring_setCell item]
    rfl
  | written item k =>
    have hk : k = (f.writeIndex + 1) &&& f.mask := hwrite item k rfl
    subst hk
    refine ⟨⟨{ f with writeIndex := (f.writeIndex + 1) &&& f.mask }, .idle, pulling⟩,
      [.pushed item true], rfl, ⟨hsize, hmask, nofun, hread⟩, ?_⟩
    simp only [shared, hf.ring_writeIndex]
    rfl

theorem pull_shared (hshape : s.Shape) (hf : s.fifo.Valid) :
    ∃ s' out, s.pull = some (s', out) ∧ s'.Shape ∧
      SharedRing.step s.shared .pull = some (s'.shared, out) := by
  obtain ⟨f, pushing, pulling⟩ := s
  obtain ⟨hsize, hmask, hwrite, hread⟩ := hshape
  cases pulling with
  | idle =>
    by_cases hempty : f.ring.write = f.ring.read
    · refine ⟨⟨f, pushing, .idle⟩, [.pulled none], ?_, ⟨hsize, hmask, hwrite, hread⟩, ?_⟩
      · exact if_pos (f.isEmpty_iff.2 hempty)
      · exact congrArg some (if_pos hempty)
    · refine ⟨⟨f, pushing, .checked⟩, [], ?_, ⟨hsize, hmask, hwrite, nofun⟩, ?_⟩
      · exact if_neg (mt f.isEmpty_iff.1 hempty)
      · exact congrArg some (if_neg hempty)
  | checked =>
    refine ⟨⟨f, pushing, .loaded f.ring.head ((f.readIndex + 1) &&& f.mask)⟩, [], ?_,
      ⟨hsize, hmask, hwrite, fun _ _ he => (FifoPulling.loaded.inj he).2.symm⟩, rfl⟩
    rw [← hf.item_eq]
    exact dif_pos (hf.cell_lt f.readIndex)
  | loaded item k =>
    have hk : k = (f.readIndex + 1) &&& f.mask := hread item k rfl
    subst hk
    refine ⟨⟨{ f with readIndex := (f.readIndex + 1) &&& f.mask }, pushing, .idle⟩,
      [.pulled (some item)], rfl, ⟨hsize, hmask, hwrite, nofun⟩, ?_⟩
    simp only [shared, hf.ring_readIndex]
    rfl

/-- A step is the step of the shared ring. -/
theorem step_shared (hshape : s.Shape) (hf : s.fifo.Valid) (e : QueueEvent UInt8) :
    ∃ s' out, step s e = some (s', out) ∧ s'.Shape ∧
      SharedRing.step s.shared e = some (s'.shared, out) := by
  cases e with
  | push item => exact push_shared hshape hf item
  | pull => exact pull_shared hshape hf

/-- A descriptor in shape, whose sides are where their tests have let them. -/
structure Valid (s : SharedFifo) : Prop where
  shape : s.Shape
  shared : s.shared.Valid

theorem start_valid : start.Valid where
  shape := ⟨rfl, rfl, nofun, nofun⟩
  shared := ⟨FifoDesc.start_valid.ring_valid, trivial, trivial⟩

theorem step_linear (h : s.Valid) (e : QueueEvent UInt8) :
    ∃ s' out, step s e = some (s', out) ∧
      (BoundedQueue.respond 64).run s.fifo.contents (out.map QueueResult.event) =
        some (s'.fifo.contents, out) ∧ s'.Valid := by
  obtain ⟨s', out, hstep, hshape, hring⟩ :=
    step_shared h.shape ⟨h.shape.size_eq, h.shape.mask_eq, h.shared.ring⟩ e
  obtain ⟨x, out', hring', hqueue, hx⟩ := SharedRing.step_linear h.shared e
  obtain ⟨rfl, rfl⟩ := Prod.mk.inj (Option.some.inj (hring'.symm.trans hring))
  exact ⟨s', out', hstep, hqueue, hshape, hx⟩

theorem valid_of_run {s s' : SharedFifo} (h : s.Valid) {es : List (QueueEvent UInt8)}
    {out : List (QueueResult UInt8)} (hrun : step.run s es = some (s', out)) : s'.Valid := by
  obtain ⟨s₁, out₁, hrun₁, h₁⟩ := step.run_of_inv (I := Valid) (fun s e h => by
    obtain ⟨s', out, hstep, -, h'⟩ := step_linear h e
    exact ⟨s', out, hstep, h'⟩) es s h
  obtain ⟨rfl, rfl⟩ := Prod.mk.inj (Option.some.inj (hrun₁.symm.trans hrun))
  exact h₁

/-- A push that is not interrupted is `fifo_push_uint8` as a whole. -/
theorem run_push {f f' : FifoDesc} {item : UInt8} {st : FifoStatus}
    (h : fifoPushUint8 f item = some (f', st)) (pulling : FifoPulling) :
    ∃ es, step.run ⟨f, .idle, pulling⟩ es =
      some (⟨f', .idle, pulling⟩, [.pushed item (st = .ok)]) := by
  unfold fifoPushUint8 at h
  by_cases hfull : fifoIsFull f
  · rw [if_pos hfull] at h
    obtain ⟨rfl, rfl⟩ := Prod.mk.inj (Option.some.inj h)
    exact ⟨[.push item], step.run_singleton (if_pos hfull)⟩
  · rw [if_neg hfull] at h
    obtain ⟨hlt, h⟩ := Option.dite_none_right_eq_some.1 h
    obtain ⟨rfl, rfl⟩ := Prod.mk.inj (Option.some.inj h)
    refine ⟨[.push item, .push item, .push item], ?_⟩
    have htest : step ⟨f, .idle, pulling⟩ (.push item) =
        some (⟨f, .checked item, pulling⟩, []) := if_neg hfull
    have hcell : step ⟨f, .checked item, pulling⟩ (.push item) =
        some (⟨{ f with buffer := f.buffer.set _ item hlt },
          .written item ((f.writeIndex + 1) &&& f.mask), pulling⟩, []) := dif_pos hlt
    exact step.run_cons htest (step.run_cons hcell rfl)

/-- The pull is not disturbed by a push as a whole. -/
theorem Valid.push {f f' : FifoDesc} {pulling : FifoPulling} (h : Valid ⟨f, .idle, pulling⟩)
    {item : UInt8} {st : FifoStatus} (hpush : fifoPushUint8 f item = some (f', st)) :
    Valid ⟨f', .idle, pulling⟩ := by
  obtain ⟨es, hrun⟩ := run_push hpush pulling
  exact valid_of_run h hrun

/-- A pull that comes to its last step takes the item that `fifo_pull_uint8` as a whole takes. -/
theorem Valid.pull_loaded {f : FifoDesc} {item k : UInt8} (h : Valid ⟨f, .idle, .loaded item k⟩) :
    fifoPullUint8 f = some ({ f with readIndex := k }, some item) := by
  have hf : f.Valid := ⟨h.shape.size_eq, h.shape.mask_eq, h.shared.ring⟩
  have hitem : f.ring.contents.head? = some item := h.shared.pulling
  have hne : f.ring.write ≠ f.ring.read := fun hempty => by
    rw [hf.ring_valid.contents_eq_nil hempty] at hitem
    exact nomatch hitem
  rw [hf.ring_valid.contents_eq_cons hne] at hitem
  have hk : k = (f.readIndex + 1) &&& f.mask := h.shape.readIndex item k rfl
  subst hk
  rw [fifoPullUint8, if_neg (mt f.isEmpty_iff.1 hne), ← Option.some.inj hitem, ← hf.item_eq]
  exact dif_pos (hf.cell_lt f.readIndex)

end SharedFifo

/-- However the steps of `fifo_push_uint8` and of `fifo_pull_uint8` interleave from `fifo_init` on:
no access leaves the buffer, and the operations with their results, in the order in which they
complete, are those of a queue of 64 bytes that is used by one side at a time.  So the pulled bytes
followed by the queued ones are the pushed ones that did not find the queue full. -/
theorem fifo_linearizable (es : List (QueueEvent UInt8)) :
    ∃ s out, SharedFifo.step.run .start es = some (s, out) ∧
      (BoundedQueue.respond 64).run [] (out.map QueueResult.event) = some (s.fifo.contents, out) ∧
      out.filterMap QueueResult.item ++ s.fifo.contents = out.filterMap QueueResult.accepted := by
  obtain ⟨s, q, out, hrun, hqueue, -, rfl⟩ := SharedFifo.step.run_follow
    (BoundedQueue.respond 64) (fun x => [x.event]) (fun x => [x])
    (R := fun s q => s.Valid ∧ s.fifo.contents = q) (fun s q e h => by
      obtain ⟨s', out, hstep, hqueue, h'⟩ := SharedFifo.step_linear h.1 e
      refine ⟨s', s'.fifo.contents, out, hstep, ?_, h', rfl⟩
      rw [← List.map_eq_flatMap, List.flatMap_singleton', ← h.2]
      exact hqueue)
    es .start [] ⟨SharedFifo.start_valid, rfl⟩
  rw [← List.map_eq_flatMap, List.flatMap_singleton'] at hqueue
  exact ⟨s, out, hrun, hqueue, (BoundedQueue.items_append_of_run 64 hqueue).symm⟩

end PowerMeterDisplay

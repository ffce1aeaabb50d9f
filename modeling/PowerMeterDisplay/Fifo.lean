import PowerMeterDisplay.Lib.RingBuffer
import PowerMeterDisplay.Display

/-!
# The receive queues

`fifo_push_uint8` and `fifo_pull_uint8` on a descriptor with 8-bit indices, as `rs485_init` sets it
up: 64 bytes and the mask 127, so that the indices run over 128 values.  A descriptor in that shape
is a ring buffer, hence a bounded queue of 64 bytes (`fifoStep_refine`).
-/

namespace PowerMeterDisplay

/-- The status codes of the push. -/
inductive FifoStatus where
  | ok
  | overflow
  deriving DecidableEq, Repr

/-- `fifo_desc_t`, with the buffer of `FIFO_BUFFER_LENGTH` bytes it points to. -/
structure FifoDesc where
  buffer : Vector UInt8 64
  readIndex : UInt8
  writeIndex : UInt8
  size : UInt8
  mask : UInt8
  deriving DecidableEq, Repr

def fifoInit (buffer : Vector UInt8 64) (size : UInt8) : FifoDesc where
  buffer := buffer
  readIndex := 0
  writeIndex := 0
  size := size
  mask := (2 * size.toUInt16 - 1).toUInt8

def fifoGetUsedSize (f : FifoDesc) : UInt8 := (f.writeIndex - f.readIndex) &&& f.mask

def fifoIsEmpty (f : FifoDesc) : Bool := f.writeIndex = f.readIndex

def fifoIsFull (f : FifoDesc) : Bool := fifoGetUsedSize f = f.size

/-- `none` is a write outside the buffer. -/
def fifoPushUint8 (f : FifoDesc) (item : UInt8) : Option (FifoDesc × FifoStatus) :=
  if fifoIsFull f then some (f, .overflow)
  else
    let k := (f.writeIndex &&& f.mask >>> 1).toNat
    if h : k < 64 then
      some ({ f with
        buffer := f.buffer.set k item h
        writeIndex := (f.writeIndex + 1) &&& f.mask }, .ok)
    else none

/-- The pulled byte, or `none` inside for `FIFO_ERROR_UNDERFLOW`; `none` outside is a read outside
the buffer. -/
def fifoPullUint8 (f : FifoDesc) : Option (FifoDesc × Option UInt8) :=
  if fifoIsEmpty f then some (f, none)
  else
    let k := (f.readIndex &&& f.mask >>> 1).toNat
    if h : k < 64 then
      some ({ f with readIndex := (f.readIndex + 1) &&& f.mask }, some f.buffer[k])
    else none

/-- A receive queue after `rs485_init`. -/
def FifoDesc.start : FifoDesc := fifoInit (Vector.replicate 64 0) 64

/-- The queue as a machine whose outputs are the pulled bytes. -/
def fifoStep : Machine FifoDesc (QueueEvent UInt8) UInt8
  | f, .push b => (fifoPushUint8 f b).map fun r => (r.1, [])
  | f, .pull => (fifoPullUint8 f).map fun r => (r.1, r.2.toList)

/-! ## The descriptor as a ring buffer -/

namespace FifoDesc

def ring (f : FifoDesc) : RingBuffer UInt8 64 where
  cells k := f.buffer[k]
  read := f.readIndex.toNat
  write := f.writeIndex.toNat

/-- The shape that `fifo_init` gives a descriptor of 64 bytes and that the operations keep. -/
structure Valid (f : FifoDesc) : Prop where
  size_eq : f.size = 64
  mask_eq : f.mask = 127
  ring_valid : f.ring.Valid

/-- The queued bytes, oldest first. -/
def contents (f : FifoDesc) : List UInt8 := f.ring.contents

theorem start_valid : start.Valid where
  size_eq := rfl
  mask_eq := rfl
  ring_valid := ⟨by decide, by decide, by decide⟩

end FifoDesc

theorem toNat_and_mask (x : UInt8) : (x &&& 127).toNat = x.toNat % 128 := by
  rw [UInt8.toNat_and]
  exact Nat.and_two_pow_sub_one_eq_mod x.toNat 7

theorem toNat_and_half_mask (x : UInt8) : (x &&& (127 : UInt8) >>> 1).toNat = x.toNat % 64 := by
  rw [UInt8.toNat_and]
  exact Nat.and_two_pow_sub_one_eq_mod x.toNat 6

theorem toNat_next_index {x : UInt8} (h : x.toNat < 128) :
    ((x + 1) &&& 127).toNat = RingBuffer.next 64 x.toNat := by
  rw [toNat_and_mask, UInt8.toNat_add]
  have h1 : (1 : UInt8).toNat = 1 := rfl
  unfold RingBuffer.next
  split_ifs <;> omega

theorem FifoDesc.isEmpty_iff (f : FifoDesc) :
    fifoIsEmpty f = true ↔ f.ring.write = f.ring.read := by
  rw [fifoIsEmpty, decide_eq_true_iff, ← UInt8.toNat_inj]
  rfl

namespace FifoDesc.Valid

variable {f : FifoDesc} (h : f.Valid)

include h

theorem used_eq : (fifoGetUsedSize f).toNat = f.ring.used := by
  have h₁ : f.readIndex.toNat < 128 := h.ring_valid.read_lt
  have h₂ : f.writeIndex.toNat < 128 := h.ring_valid.write_lt
  rw [fifoGetUsedSize, h.mask_eq, toNat_and_mask, UInt8.toNat_sub]
  show (2 ^ 8 - f.readIndex.toNat + f.writeIndex.toNat) % 2 ^ 8 % 128 =
    if f.readIndex.toNat ≤ f.writeIndex.toNat then f.writeIndex.toNat - f.readIndex.toNat
    else f.writeIndex.toNat + 2 * 64 - f.readIndex.toNat
  split_ifs <;> omega

theorem isFull_iff : fifoIsFull f = true ↔ f.ring.used = 64 := by
  rw [fifoIsFull, decide_eq_true_iff, ← UInt8.toNat_inj, h.used_eq, h.size_eq]
  rfl

/-- A push into a full queue does nothing; otherwise it pushes onto the ring. -/
theorem push_eq (b : UInt8) : ∃ f' st, fifoPushUint8 f b = some (f', st) ∧ f'.Valid ∧
    f'.ring = if f.ring.used = 64 then f.ring else f.ring.push b := by
  by_cases hfull : f.ring.used = 64
  · refine ⟨f, .overflow, ?_, h, (if_pos hfull).symm⟩
    rw [fifoPushUint8, if_pos (h.isFull_iff.2 hfull)]
  · have hk : (f.writeIndex &&& f.mask >>> 1).toNat = f.writeIndex.toNat % 64 := by
      rw [h.mask_eq, toNat_and_half_mask]
    have hlt : (f.writeIndex &&& f.mask >>> 1).toNat < 64 := by
      rw [hk]
      exact Nat.mod_lt _ (by decide)
    let f' : FifoDesc := { f with
      buffer := f.buffer.set (f.writeIndex &&& f.mask >>> 1).toNat b hlt
      writeIndex := (f.writeIndex + 1) &&& f.mask }
    have hring : f'.ring = f.ring.push b := by
      have hnext : f'.ring.write = (f.ring.push b).write := by
        show ((f.writeIndex + 1) &&& f.mask).toNat = RingBuffer.next 64 f.writeIndex.toNat
        rw [h.mask_eq, toNat_next_index h.ring_valid.write_lt]
      have hcells : f'.ring.cells = (f.ring.push b).cells := by
        funext k
        show (f.buffer.set (f.writeIndex &&& f.mask >>> 1).toNat b hlt)[k.val] =
          Function.update f.ring.cells (RingBuffer.slot 64 f.writeIndex.toNat) b k
        rw [Vector.getElem_set, Function.update_apply]
        simp only [RingBuffer.slot, Fin.ext_iff, hk, eq_comm]
        rfl
      exact RingBuffer.ext hcells rfl hnext
    refine ⟨f', .ok, ?_, ⟨h.size_eq, h.mask_eq, hring ▸ h.ring_valid.push hfull b⟩,
      hring.trans (if_neg hfull).symm⟩
    rw [fifoPushUint8, if_neg (mt h.isFull_iff.1 hfull)]
    exact dif_pos hlt

/-- A pull from an empty queue does nothing; otherwise it takes the oldest byte off the ring. -/
theorem pull_eq : ∃ f' o, fifoPullUint8 f = some (f', o) ∧ f'.Valid ∧
    (f'.ring, o.toList) =
      if f.ring.write = f.ring.read then (f.ring, []) else (f.ring.drop, [f.ring.head]) := by
  by_cases hempty : f.ring.write = f.ring.read
  · refine ⟨f, none, ?_, h, (if_pos hempty).symm⟩
    rw [fifoPullUint8, if_pos (f.isEmpty_iff.2 hempty)]
  · have hk : (f.readIndex &&& f.mask >>> 1).toNat = f.readIndex.toNat % 64 := by
      rw [h.mask_eq, toNat_and_half_mask]
    have hlt : (f.readIndex &&& f.mask >>> 1).toNat < 64 := by
      rw [hk]
      exact Nat.mod_lt _ (by decide)
    have hnext : ((f.readIndex + 1) &&& f.mask).toNat = RingBuffer.next 64 f.readIndex.toNat := by
      rw [h.mask_eq, toNat_next_index h.ring_valid.read_lt]
    have hitem : f.buffer[(f.readIndex &&& f.mask >>> 1).toNat] = f.ring.head :=
      congrArg f.ring.cells (Fin.ext hk : (⟨_, hlt⟩ : Fin 64) = RingBuffer.slot 64 f.ring.read)
    let f' : FifoDesc := { f with readIndex := (f.readIndex + 1) &&& f.mask }
    have hring : f'.ring = f.ring.drop := RingBuffer.ext rfl hnext rfl
    refine ⟨f', some f.ring.head, ?_, ⟨h.size_eq, h.mask_eq, hring ▸ h.ring_valid.drop hempty⟩, ?_⟩
    · rw [fifoPullUint8, if_neg (mt f.isEmpty_iff.1 hempty), ← hitem]
      exact dif_pos hlt
    · rw [if_neg hempty, hring]
      rfl

/-- A byte pushed into the empty queue is the next one pulled, and leaves the queue empty. -/
theorem push_pull (hempty : fifoIsEmpty f) (b : UInt8) :
    ∃ f₁ f₂ st, fifoPushUint8 f b = some (f₁, st) ∧ fifoPullUint8 f₁ = some (f₂, some b) ∧
      f₂.Valid ∧ fifoIsEmpty f₂ := by
  have hused : f.ring.used = 0 := h.ring_valid.used_eq_zero_iff.2 (f.isEmpty_iff.1 hempty)
  have hnil : f.ring.contents = [] :=
    List.length_eq_zero_iff.1 (by rw [f.ring.length_contents, hused])
  obtain ⟨f₁, st, hpush, h₁, hring₁⟩ := h.push_eq b
  rw [if_neg (by omega)] at hring₁
  have hcontents : f₁.ring.contents = [b] := by
    rw [hring₁, h.ring_valid.contents_push (by omega), hnil, List.nil_append]
  have hne : f₁.ring.write ≠ f₁.ring.read := by
    intro he
    have := h₁.ring_valid.used_eq_zero_iff.2 he
    rw [← f₁.ring.length_contents, hcontents] at this
    exact absurd this Nat.one_ne_zero
  obtain ⟨f₂, o, hpull, h₂, hring₂⟩ := h₁.pull_eq
  rw [if_neg hne] at hring₂
  obtain ⟨hring, ho⟩ := Prod.mk.inj hring₂
  rw [h₁.ring_valid.contents_eq_cons hne] at hcontents
  obtain ⟨hhead, hdrop⟩ := List.cons.inj hcontents
  obtain rfl : o = some b := Option.toList_eq_singleton_iff.1 (by rw [ho, hhead])
  refine ⟨f₁, f₂, st, hpush, hpull, h₂, f₂.isEmpty_iff.2 (h₂.ring_valid.used_eq_zero_iff.1 ?_)⟩
  rw [← f₂.ring.length_contents, hring, hdrop]
  rfl

end FifoDesc.Valid

/-- A queue in shape does not leave its buffer and behaves as the bounded queue of 64 bytes. -/
theorem fifoStep_refine (f : FifoDesc) (q : List UInt8) (e : QueueEvent UInt8)
    (h : f.Valid ∧ f.contents = q) :
    ∃ f' q' out, fifoStep f e = some (f', out) ∧ BoundedQueue.step 64 q e = some (q', out) ∧
      (f'.Valid ∧ f'.contents = q') := by
  obtain ⟨hf, hq⟩ := h
  obtain ⟨r', q', out, hring, hqueue, -, hcontents⟩ :=
    RingBuffer.step_refine f.ring q e ⟨hf.ring_valid, hq⟩
  cases e with
  | push b =>
    obtain ⟨f', st, hpush, hf', hr⟩ := hf.push_eq b
    obtain ⟨rfl, rfl⟩ := Prod.mk.inj (Option.some.inj hring)
    refine ⟨f', q', [], ?_, hqueue, hf', ?_⟩
    · simp only [fifoStep, hpush, Option.map_some]
    · rw [FifoDesc.contents, hr, hcontents]
  | pull =>
    obtain ⟨f', o, hpull, hf', hr⟩ := hf.pull_eq
    obtain ⟨rfl, rfl⟩ := Prod.mk.inj (hr.trans (Option.some.inj hring))
    refine ⟨f', q', o.toList, ?_, hqueue, hf', hcontents⟩
    simp only [fifoStep, hpull, Option.map_some]

end PowerMeterDisplay

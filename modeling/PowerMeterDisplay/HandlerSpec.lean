import PowerMeterDisplay.Handlers
import Mathlib.Tactic.IntervalCases

/-!
# What the handlers compute

For a length of at most 60 both handlers stay inside the buffer and end.  A data frame folds
`addSample` over the groups of four bytes at offsets 1, 5, 9, … that start inside the payload
(`protoRecvData_eq`); a scale frame of at least 15 bytes compares the announced scale with the
stored one and either installs it or leaves the record alone (`protoRecvScale_eq`).
-/

namespace PowerMeterDisplay

/-! ## Data frames -/

namespace MsgBuf

/-- The pair of readings at offset `k`. -/
def sampleAt (buf : MsgBuf) (k : ℕ) : Sample := ⟨buf.uint16At k, buf.int16At (k + 2)⟩

/-- The readings that `proto_recv_data` takes in from a payload of length `len`. -/
def samples (buf : MsgBuf) (len : UInt8) : List Sample :=
  (List.range ((len.toNat + 2) / 4)).map fun k => buf.sampleAt (1 + 4 * k)

end MsgBuf

/-- Inside a payload of at most 60 bytes the loop index does not wrap. -/
theorem toNat_add_four {i len : UInt8} (hlen : len.toNat ≤ 60) (hi : i < len) :
    (i + 4).toNat = i.toNat + 4 := by
  have hi : i.toNat < len.toNat := UInt8.lt_iff_toNat_lt.1 hi
  rw [UInt8.toNat_add]
  exact Nat.mod_eq_of_lt (by change i.toNat + 4 < 256; omega)

/-- The loop from an index at which `n` groups are left. -/
theorem protoRecvDataLoop_eq (buf : MsgBuf) {len : UInt8} (hlen : len.toNat ≤ 60) (n : ℕ) :
    ∀ {fuel : ℕ} {i : UInt8} (d : DisplayData), i.toNat + 4 * n < len.toNat + 4 →
      len.toNat ≤ i.toNat + 4 * n → n < fuel →
      protoRecvDataLoop buf len fuel i d =
        some (((List.range n).map fun k => buf.sampleAt (i.toNat + 4 * k)).foldl addSample d) := by
  induction n with
  | zero =>
    intro fuel i d _ hend hfuel
    obtain ⟨fuel, rfl⟩ := Nat.exists_eq_succ_of_ne_zero (by omega : fuel ≠ 0)
    have hi : ¬ i < len := by rw [UInt8.lt_iff_toNat_lt]; omega
    simp [protoRecvDataLoop, hi]
  | succ n ih =>
    intro fuel i d hstart hend hfuel
    obtain ⟨fuel, rfl⟩ := Nat.exists_eq_succ_of_ne_zero (by omega : fuel ≠ 0)
    have hi : i < len := by rw [UInt8.lt_iff_toNat_lt]; omega
    have hnext := toNat_add_four hlen hi
    have key : protoRecvDataLoop buf len fuel (i + 4) (addSample d (buf.sampleAt i.toNat)) = _ :=
      ih _ (by omega) (by omega) (by omega)
    have hv : buf.readUint16 i.toNat = some (buf.uint16At i.toNat) :=
      MsgBuf.within_eq_some (by omega) _
    have hc : buf.readInt16 (i.toNat + 2) = some (buf.int16At (i.toNat + 2)) :=
      MsgBuf.within_eq_some (by omega) _
    rw [protoRecvDataLoop, if_pos hi, hv, hc]
    refine key.trans ?_
    rw [List.range_succ_eq_map, List.map_cons, List.foldl_cons, List.map_map, hnext]
    congr 2
    refine List.map_congr_left fun k _ => ?_
    show buf.sampleAt (i.toNat + 4 + 4 * k) = buf.sampleAt (i.toNat + 4 * (k + 1))
    congr 1
    omega

/-- For a payload of at most 60 bytes `proto_recv_data` ends, stays inside the buffer and takes in
the samples of the payload in order. -/
theorem protoRecvData_eq (buf : MsgBuf) {len : UInt8} (hlen : len.toNat ≤ 60) (d : DisplayData) :
    protoRecvData buf len d = some ((buf.samples len).foldl addSample d) := by
  have h1 : (1 : UInt8).toNat = 1 := rfl
  rw [protoRecvData, protoRecvDataLoop_eq buf hlen ((len.toNat + 2) / 4) d (by omega) (by omega)
    (by omega), h1]
  rfl

theorem foldl_addSample_samples (xs : List Sample) (d : DisplayData) :
    (xs.foldl addSample d).samples = d.samples + UInt16.ofNat xs.length := by
  induction xs generalizing d with
  | nil => simp
  | cons x xs ih =>
    rw [List.foldl_cons, ih, List.length_cons, UInt16.ofNat_add, UInt16.add_comm (.ofNat _),
      ← UInt16.add_assoc]
    rfl

theorem foldl_addSample_frame (xs : List Sample) (d : DisplayData) :
    (xs.foldl addSample d).measure = d.measure ∧ (xs.foldl addSample d).menuPos = d.menuPos := by
  induction xs generalizing d with
  | nil => exact ⟨rfl, rfl⟩
  | cons x xs ih => exact ih (addSample d x)

/-- The samples depend on the bytes of the groups only, the last of which may lie behind the
payload. -/
theorem MsgBuf.samples_congr {a b : MsgBuf} {len : UInt8}
    (h : ∀ j < 1 + 4 * ((len.toNat + 2) / 4), a.byteAt j = b.byteAt j) :
    a.samples len = b.samples len := by
  refine List.map_congr_left fun k hk => ?_
  have hk : k < (len.toNat + 2) / 4 := List.mem_range.1 hk
  simp only [sampleAt, int16At, uint16At]
  rw [h (1 + 4 * k) (by omega), h (1 + 4 * k + 1) (by omega), h (1 + 4 * k + 2) (by omega),
    h (1 + 4 * k + 2 + 1) (by omega)]

/-! ## Scale frames -/

/-- A scale setting: as stored in a display record, or as announced by a scale frame. -/
structure Scale where
  scaleV : FloatBits
  scaleC : FloatBits
  hallActive : UInt8
  deriving DecidableEq, Repr

namespace Scale

/-- The test "something has changed?" of `proto_recv_scale`. -/
def differs (stored announced : Scale) : Bool :=
  FloatBits.ne stored.scaleV announced.scaleV || FloatBits.ne stored.scaleC announced.scaleC ||
    announced.hallActive != stored.hallActive

theorem differs_eq_false_iff {stored announced : Scale} :
    stored.differs announced = false ↔
      FloatBits.ne stored.scaleV announced.scaleV = false ∧
        FloatBits.ne stored.scaleC announced.scaleC = false ∧
        announced.hallActive = stored.hallActive := by
  simp only [differs, Bool.or_eq_false_iff, bne_eq_false_iff_eq, and_assoc]

end Scale

def DisplayData.scale (d : DisplayData) : Scale := ⟨d.scaleV, d.scaleC, d.hallActive⟩

/-- The scale that a scale frame announces. -/
def MsgBuf.scale (buf : MsgBuf) : Scale where
  scaleV := buf.floatAt 2
  scaleC := if buf.byteAt 10 &&& 0x04 > 0 then buf.floatAt 12 else buf.floatAt 7
  hallActive := if buf.byteAt 10 &&& 0x04 > 0 then 1 else 0

namespace MsgBuf

/-- One past the last byte that a scale frame is read from: the hall scale is only read when the
hall flag is set. -/
def scaleEnd (buf : MsgBuf) : ℕ := if buf.byteAt 10 &&& 0x04 > 0 then 16 else 11

theorem scaleEnd_le (buf : MsgBuf) : buf.scaleEnd ≤ 16 := by
  unfold scaleEnd
  split_ifs <;> omega

theorem le_scaleEnd (buf : MsgBuf) : 11 ≤ buf.scaleEnd := by
  unfold scaleEnd
  split_ifs <;> omega

theorem floatAt_congr {a b : MsgBuf} {n : ℕ} (h : ∀ j < n, a.byteAt j = b.byteAt j) {k : ℕ}
    (hk : k + 4 ≤ n) : a.floatAt k = b.floatAt k := by
  simp only [floatAt]
  rw [h k (by omega), h (k + 1) (by omega), h (k + 2) (by omega), h (k + 3) (by omega)]

/-- The announced scale depends on the bytes that are read only. -/
theorem scale_congr {a b : MsgBuf} (h : ∀ j < a.scaleEnd, a.byteAt j = b.byteAt j) :
    a.scale = b.scale := by
  have hle := a.le_scaleEnd
  have hflag : b.byteAt 10 = a.byteAt 10 := (h 10 (by omega)).symm
  simp only [scale, hflag, floatAt_congr h (show 2 + 4 ≤ a.scaleEnd by omega),
    floatAt_congr h (show 7 + 4 ≤ a.scaleEnd by omega)]
  by_cases hset : a.byteAt 10 &&& 0x04 > 0
  · have hend : 12 + 4 ≤ a.scaleEnd := by rw [scaleEnd, if_pos hset]
    simp only [if_pos hset, floatAt_congr h hend]
  · simp only [if_neg hset]

end MsgBuf

/-- The code of `measure` after a changed scale frame: a disabled channel becomes active. -/
def reactivate (measure : UInt8) : UInt8 :=
  if measure = 20 then 2 else if measure = 10 then 1 else measure

/-- The record after a complete scale frame. -/
def applyScale (d : DisplayData) (x : Scale) : DisplayData :=
  if d.scale.differs x then
    lcdEadogResetData { d with scaleV := x.scaleV, scaleC := x.scaleC, hallActive := x.hallActive }
      (reactivate d.measure)
  else d

/-- The bits of four bytes put together, the lowest byte first. -/
theorem getLsbD_word (a b c d : UInt8) {i : ℕ} (hi : i < 32) :
    (a.toUInt32 ||| b.toUInt32 <<< 8 ||| c.toUInt32 <<< 16 ||| d.toUInt32 <<< 24).toBitVec.getLsbD
      i = ([a, b, c, d].getD (i / 8) 0).toBitVec.getLsbD (i % 8) := by
  have h8 : BitVec.toNat (UInt32.toBitVec 8 % 32) = 8 := rfl
  have h16 : BitVec.toNat (UInt32.toBitVec 16 % 32) = 16 := rfl
  have h24 : BitVec.toNat (UInt32.toBitVec 24 % 32) = 24 := rfl
  simp only [UInt32.toBitVec_or, UInt32.toBitVec_shiftLeft, UInt8.toBitVec_toUInt32,
    BitVec.getLsbD_or, BitVec.shiftLeft_eq', h8, h16, h24, BitVec.getLsbD_shiftLeft,
    BitVec.getLsbD_setWidth, hi]
  interval_cases i <;> simp

theorem floatBits_bytes (x : FloatBits) :
    x.toUInt8.toUInt32 ||| (x >>> 8).toUInt8.toUInt32 <<< 8 |||
      (x >>> 16).toUInt8.toUInt32 <<< 16 ||| (x >>> 24).toUInt8.toUInt32 <<< 24 = x := by
  apply UInt32.toBitVec_inj.1
  apply BitVec.eq_of_getLsbD_eq
  intro i hi
  rw [getLsbD_word _ _ _ _ hi]
  interval_cases i <;> simp

/-- The highest byte of a float is its last one in the buffer. -/
theorem MsgBuf.floatAt_top (buf : MsgBuf) (k : ℕ) :
    (buf.floatAt k >>> 24).toUInt8 = buf.byteAt (k + 3) := by
  apply UInt8.toBitVec_inj.1
  apply BitVec.eq_of_getLsbD_eq
  intro i hi
  have hword := getLsbD_word (buf.byteAt k) (buf.byteAt (k + 1)) (buf.byteAt (k + 2))
    (buf.byteAt (k + 3)) (i := 24 + i) (by omega)
  have hquot : (24 + i) / 8 = 3 := by omega
  have hrem : (24 + i) % 8 = i := by omega
  rw [hquot, hrem] at hword
  simpa [floatAt, hi] using hword

namespace MsgBuf

/-- A float written to the buffer is read back bit for bit. -/
theorem floatAt_setFloat (buf : MsgBuf) {k : ℕ} (hk : k + 4 ≤ 64) (x : FloatBits) :
    (buf.setFloat k x).floatAt k = x := by
  have h0 : (buf.setFloat k x).byteAt k = x.toUInt8 := by
    simp only [setFloat, byteAt_setByte, true_and]
    rw [if_neg (by omega), if_neg (by omega), if_neg (by omega), if_pos (by omega)]
  have h1 : (buf.setFloat k x).byteAt (k + 1) = (x >>> 8).toUInt8 := by
    simp only [setFloat, byteAt_setByte, true_and]
    rw [if_neg (by omega), if_neg (by omega), if_pos (by omega)]
  have h2 : (buf.setFloat k x).byteAt (k + 2) = (x >>> 16).toUInt8 := by
    simp only [setFloat, byteAt_setByte, true_and]
    rw [if_neg (by omega), if_pos (by omega)]
  have h3 : (buf.setFloat k x).byteAt (k + 3) = (x >>> 24).toUInt8 := by
    simp only [setFloat, byteAt_setByte, true_and]
    rw [if_pos (by omega)]
  rw [floatAt, h0, h1, h2, h3, floatBits_bytes]

/-- A float write changes only its four bytes. -/
theorem byteAt_setFloat_of_lt (buf : MsgBuf) {j k : ℕ} (h : j < k ∨ k + 4 ≤ j) (x : FloatBits) :
    (buf.setFloat k x).byteAt j = buf.byteAt j := by
  simp only [setFloat, byteAt_setByte]
  split_ifs <;> first | rfl | omega

/-- A float written to other bytes leaves a float alone. -/
theorem floatAt_setFloat_of_disjoint (buf : MsgBuf) {j k : ℕ} (h : k + 4 ≤ j ∨ j + 4 ≤ k)
    (x : FloatBits) : (buf.setFloat j x).floatAt k = buf.floatAt k := by
  simp only [floatAt]
  rw [byteAt_setFloat_of_lt buf (by omega), byteAt_setFloat_of_lt buf (by omega),
    byteAt_setFloat_of_lt buf (by omega), byteAt_setFloat_of_lt buf (by omega)]

end MsgBuf

/-- The hall part of the handler settles which current scale the frame announces. -/
theorem recvHall_eq (buf : MsgBuf) (d : DisplayData) :
    recvHall buf d =
      some (buf.setFloat 7 buf.scale.scaleC, { d with hallActive := buf.scale.hallActive }) := by
  have hflag : buf.readByte 10 = some (buf.byteAt 10) := MsgBuf.within_eq_some (by decide) _
  unfold recvHall MsgBuf.scale
  rw [hflag]
  simp only [Option.bind_eq_bind, Option.bind_some]
  split_ifs <;> rfl

/-- A complete scale frame stays inside the buffer, writes the announced current scale back to its
place there and applies the announced scale to the record. -/
theorem protoRecvScale_eq (buf : MsgBuf) {len : UInt8} (hlen : 15 ≤ len) (d : DisplayData) :
    protoRecvScale buf len d =
      some (buf.setFloat 7 buf.scale.scaleC, applyScale d buf.scale) := by
  have hreadV : (buf.setFloat 7 buf.scale.scaleC).readFloat 2 = some buf.scale.scaleV :=
    (MsgBuf.within_eq_some (by decide) _).trans
      (congrArg some (buf.floatAt_setFloat_of_disjoint (by decide) _))
  have hreadC : (buf.setFloat 7 buf.scale.scaleC).readFloat 7 = some buf.scale.scaleC :=
    (MsgBuf.within_eq_some (by decide) _).trans
      (congrArg some (buf.floatAt_setFloat (by decide) _))
  rw [protoRecvScale, if_neg (UInt8.not_lt.2 hlen), recvHall_eq]
  simp only [Option.bind_eq_bind, Option.bind_some, hreadV, hreadC]
  unfold applyScale
  by_cases h : d.scale.differs buf.scale
  · rw [if_pos h]
    refine (if_pos h).trans ?_
    rfl
  · have hall : buf.scale.hallActive = d.hallActive :=
      (Scale.differs_eq_false_iff.1 (Bool.eq_false_iff.2 h)).2.2
    rw [if_neg h]
    refine (if_neg h).trans ?_
    rw [hall]

end PowerMeterDisplay
